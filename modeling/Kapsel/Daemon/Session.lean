import Kapsel.Bytes.Lines
import Kapsel.Daemon.ToolCalls
import Mathlib.Data.List.Induction

/-!
# The session of the bridge

`kapsel-service-mcp.rs` reads requests from its input, one on a line, and writes one line for each
of them.  A client first says `initialize` and then that it is initialized; only then are tools
listed and called, and only a tool call reaches the service.

* `Bridge.handle` is what is done with one line, and `Bridge.session` the loop of `main`, with
  what its streams do.
* `Answers`: what one line is answered with.
* `daemon_replies_pass`: every reply of the daemon passes the bridge.
* `Opened`: where the two steps of the handshake stand before a line.
* `session_follows_protocol`: **all of it, for every input.**
-/

namespace Kapsel

open Grammar Lines

namespace Daemon

open Gateway Application Json Json.Document

variable {C : Crypto}

/-- `Value::is_object`. -/
def isObject : Document → Bool
  | .object _ => true
  | _ => false

namespace Bridge

/-! ## Messages -/

/-- `INPUT_MAX`. -/
def inputMax : ℕ := 16 * 1024

/-- `PROTOCOL`. -/
def protocol : String := "2025-11-25"

/-- `Message`, with `null` for an absent identity. -/
structure Message where
  jsonrpc : Text
  id : Document
  method : Text
  params : Option Document

/-- A value that is there and not `null`. -/
def present (value : Option Document) : Option Document := value.filter fun value => !isNull value

/-- `Message` of a value: an object without other fields, or the fields in their order. -/
def Message.ofValue : Document → Option Message
  | .object members =>
      if ∀ name ∈ names members, name = utf8 "jsonrpc" ∨ name = utf8 "id" ∨ name = utf8 "method" ∨
          name = utf8 "params" then do
        let jsonrpc ← (members.lookup (utf8 "jsonrpc")).bind decodeString
        let method ← (members.lookup (utf8 "method")).bind decodeString
        return ⟨jsonrpc, (members.lookup (utf8 "id")).getD .null, method,
          present (members.lookup (utf8 "params"))⟩
      else none
  | .array [.string jsonrpc, id, .string method] => some ⟨jsonrpc, id, method, none⟩
  | .array [.string jsonrpc, id, .string method, params] =>
      some ⟨jsonrpc, id, method, present (some params)⟩
  | _ => none

/-- `valid_id`. -/
def validId : Document → Bool
  | .number _ => true
  | .string text => text.length ≤ 128
  | _ => false

/-- `metadata_only`. -/
def metadataOnly : Option Document → Bool
  | none => true
  | some (.object fields) =>
      fields.isEmpty || (fields.length = 1 && (fields.lookup (utf8 "_meta")).any isObject)
  | some _ => false

/-- The parameters of `initialize` that `dispatch` accepts. -/
def initializeIsValid : Option Document → Bool
  | some (.object fields) =>
      (names fields).all (fun key =>
          ["protocolVersion", "capabilities", "clientInfo", "_meta"].any fun s => key = utf8 s) &&
        (fields.lookup (utf8 "protocolVersion")).any isString &&
        (fields.lookup (utf8 "capabilities")).any isObject &&
        (fields.lookup (utf8 "clientInfo")).any (fun clientInfo =>
          (clientInfo.get? (utf8 "name")).any isString &&
            (clientInfo.get? (utf8 "version")).any isString) &&
        (fields.lookup (utf8 "_meta")).all isObject
  | _ => false

/-- What `initialize` is answered with. -/
def initialized : Document :=
  json [("protocolVersion", word protocol), ("capabilities", json [("tools", json [])]),
    ("serverInfo", json [("name", word "kapsel-service"), ("version", word "0.3.0")])]

/-- A tool of `tools`. -/
def toolEntry (name description : String) (inputSchema : Document) : Document :=
  json [("name", word name), ("description", word description), ("inputSchema", inputSchema)]

/-- The schema of an object with one property. -/
def schema (name : String) (property : Document) : Document :=
  json [("type", word "object"), ("properties", json [(name, property)]),
    ("required", .array [word name]), ("additionalProperties", .bool false)]

/-- `tools`. -/
def tools : Document :=
  let cursorSchema := schema "after" (json [("type", .array [word "string", word "null"]),
    ("maxLength", .number (utf8 "128"))])
  let operationIdSchema := schema "operation_id" (json [("type", word "string"),
    ("minLength", .number (utf8 "1")), ("maxLength", .number (utf8 "128")),
    ("pattern", word "^[A-Za-z0-9._:-]+$")])
  json [("tools", .array [
    toolEntry "kapsel.list_approved_actions" "Read operator-approved handles." cursorSchema,
    toolEntry "kapsel.list_operation_history" "Read retained operation history." cursorSchema,
    toolEntry "kapsel.get_status" "Read stored status without advancing." operationIdSchema,
    toolEntry "kapsel.get_receipt" "Read original signed receipt bytes and digest."
      operationIdSchema,
    toolEntry "kapsel.submit" "Explicitly submit or resume the same operation ID."
      operationIdSchema])]

/-! ## Dispatch -/

/-- `HandshakePhase`. -/
inductive HandshakePhase where
  | awaitingInitialize
  | awaitingInitialized
  | ready
  deriving DecidableEq

/-- The phase of the handshake, and the service. -/
structure Conversation (σ : Type) where
  phase : HandshakePhase
  service : σ

/-- A line that cannot be a request of this phase. -/
def invalidEnvelope (id : Document) : Document := error id "-32600" "Invalid Request"

variable {σ : Type}

/-- `dispatch`. -/
def dispatch (toolCall : σ → Document → Option Document → Document × σ) (message : Message)
    (hasRequestId : Bool) (c : Conversation σ) : Option Document × Conversation σ :=
  if (hasRequestId && !validId message.id) || message.jsonrpc ≠ utf8 "2.0" then
    (some (invalidEnvelope .null), c)
  else if !hasRequestId && message.method ≠ utf8 "notifications/initialized" &&
      message.method ≠ utf8 "notifications/cancelled" then (none, c)
  else if message.method = utf8 "initialize" && hasRequestId then
    if c.phase ≠ .awaitingInitialize || !initializeIsValid message.params then
      (some (invalidEnvelope message.id), c)
    else (some (result message.id initialized), { c with phase := .awaitingInitialized })
  else if message.method = utf8 "notifications/initialized" && !hasRequestId then
    if c.phase = .awaitingInitialized && metadataOnly message.params then
      (none, { c with phase := .ready })
    else (none, c)
  else if message.method = utf8 "notifications/cancelled" && !hasRequestId then (none, c)
  else if message.method = utf8 "notifications/initialized" ||
      message.method = utf8 "notifications/cancelled" then (some (invalidEnvelope message.id), c)
  else if (message.method = utf8 "tools/list" || message.method = utf8 "tools/call") &&
      hasRequestId then
    if c.phase ≠ .ready then (some (invalidEnvelope message.id), c)
    else if message.method = utf8 "tools/list" then
      if !metadataOnly message.params then (some (error message.id "-32602" "Invalid params"), c)
      else (some (result message.id tools), c)
    else
      let (response, service) := toolCall c.service message.id message.params
      (some response, { c with service })
  else if !hasRequestId then (none, c)
  else (some (error message.id "-32601" "Method not found"), c)

/-- The name of the identity of a message. -/
def idOf (value : Document) : Option Document := value.get? (utf8 "id")

/-- What `main` does with a line. -/
def handle (C : Crypto) (reader : Reader)
    (exchange : σ → Bytes → Except Transport.Error (Bytes × Text) × σ) (line : Bytes)
    (c : Conversation σ) : Option Document × Conversation σ :=
  match unique reader line with
  | none => (some (error .null "-32700" "Parse error"), c)
  | some value =>
      match Message.ofValue value with
      | some message => dispatch (call C reader exchange) message (idOf value).isSome c
      | none => (some (invalidEnvelope (((idOf value).filter validId).getD .null)), c)

/-! ## The loop -/

/-- A line without the carriage return before its end. -/
def stripped (line : Bytes) : Bytes := if line.getLast? = some 13 then line.dropLast else line

/-- What a session leaves: the lines that were written, the service, and the exit code. -/
structure Outcome (σ : Type) where
  written : List Bytes
  service : σ
  code : ℕ

/-- The line of a response. -/
def lineOf (response : Document) : Bytes := response.print ++ [10]

/-- What the streams of the process do: how many lines the output takes before a write or a flush
fails, if one does, and whether a read fails where the input ends. -/
structure Streams where
  lines : Option ℕ
  readFails : Bool

/-- The streams behind one more line that was written. -/
def Streams.wrote (streams : Streams) : Streams :=
  { streams with lines := streams.lines.map (· - 1) }

/-- The loop of `main`.  Of a write that fails, no line is counted as written. -/
def session (C : Crypto) (reader : Reader)
    (exchange : σ → Bytes → Except Transport.Error (Bytes × Text) × σ) (streams : Streams)
    (c : Conversation σ) (input : Bytes) : Outcome σ :=
  let bytes := upTo 10 (inputMax + 1) input
  if streams.readFails && bytes.length ≤ inputMax && bytes.getLast? ≠ some 10 then
    ⟨[], c.service, 4⟩
  else if _hempty : bytes = [] then ⟨[], c.service, 0⟩
  else if inputMax < bytes.length || bytes.getLast? ≠ some 10 then ⟨[], c.service, 2⟩
  else
    let (response, c) := handle C reader exchange (stripped bytes.dropLast) c
    match response with
    | none => session C reader exchange streams c (input.drop bytes.length)
    | some response =>
        if outputMax < (lineOf response).length || streams.lines = some 0 then ⟨[], c.service, 4⟩
        else
          let rest := session C reader exchange streams.wrote c (input.drop bytes.length)
          { rest with written := lineOf response :: rest.written }
termination_by input.length
decreasing_by
  all_goals
    have hinput : input ≠ [] := by
      rintro rfl
      exact _hempty rfl
    have hpos := List.length_pos_iff.mpr hinput
    have hbytes : 0 < (upTo 10 (inputMax + 1) input).length := List.length_pos_iff.mpr _hempty
    rw [List.length_drop]
    omega

/-! ## One line -/

/-- A request of the first step of the handshake. -/
def Initializes (reader : Reader) (line : Bytes) : Prop :=
  ∃ value message, unique reader line = some value ∧ Message.ofValue value = some message ∧
    (idOf value).isSome = true ∧ validId message.id = true ∧ message.jsonrpc = utf8 "2.0" ∧
    message.method = utf8 "initialize" ∧ initializeIsValid message.params = true

/-- The notification of the second step of the handshake. -/
def Notifies (reader : Reader) (line : Bytes) : Prop :=
  ∃ members message, unique reader line = some (.object members) ∧
    Message.ofValue (.object members) = some message ∧ members.lookup (utf8 "id") = none ∧
    message.jsonrpc = utf8 "2.0" ∧ message.method = utf8 "notifications/initialized" ∧
    metadataOnly message.params = true

/-- An array of the fields of a message, in their order, that names this notification.  Whatever
stands in the place of the identity, it is taken as one. -/
def NotifiesByPosition (reader : Reader) (line : Bytes) : Prop :=
  ∃ elements message, unique reader line = some (.array elements) ∧
    Message.ofValue (.array elements) = some message ∧ message.jsonrpc = utf8 "2.0" ∧
    message.method = utf8 "notifications/initialized" ∧ metadataOnly message.params = true

/-- The second step of the handshake, in either form. -/
def Confirms (reader : Reader) (line : Bytes) : Prop :=
  Notifies reader line ∨ NotifiesByPosition reader line

/-- A tool call with a request for the service. -/
def Calls (reader : Reader) (line : Bytes) (id : Document) (params : Option Document) (tool : Text)
    (request : Document) : Prop :=
  ∃ value message, unique reader line = some value ∧ Message.ofValue value = some message ∧
    idOf value = some id ∧ validId id = true ∧ message.jsonrpc = utf8 "2.0" ∧
    message.method = utf8 "tools/call" ∧ message.params = params ∧
    decodeCall params = some (tool, request)

/-- What a line is answered with.

* What is no JSON gets an error without an identity.
* An object that is a request of the version gets one response with its identity, and an object
  that is a notification of the version gets nothing.
* An array that has the fields of a message of the version in their order gets nothing, whatever
  stands in the place of the identity: `main` looks for an identity in objects only.
* Anything else gets one response that says it is invalid. -/
inductive Answers (reader : Reader) (line : Bytes) : Option Document → Prop
  | unparsed : unique reader line = none →
      Answers reader line (some (error .null "-32700" "Parse error"))
  | request (members : Members) (id response : Document) (message : Message) :
      unique reader line = some (.object members) →
      Message.ofValue (.object members) = some message → members.lookup (utf8 "id") = some id →
      validId id = true → message.jsonrpc = utf8 "2.0" → response.get? (utf8 "id") = some id →
      Answers reader line (some response)
  | notification (members : Members) (message : Message) :
      unique reader line = some (.object members) →
      Message.ofValue (.object members) = some message → members.lookup (utf8 "id") = none →
      message.jsonrpc = utf8 "2.0" → Answers reader line none
  | positional (elements : List Document) (message : Message) :
      unique reader line = some (.array elements) →
      Message.ofValue (.array elements) = some message → message.jsonrpc = utf8 "2.0" →
      Answers reader line none
  | refused (value id : Document) : unique reader line = some value →
      (∀ message, Message.ofValue value = some message → message.jsonrpc ≠ utf8 "2.0" ∨
        ∃ id, idOf value = some id ∧ validId id = false) →
      (id = .null ∨ idOf value = some id ∧ validId id = true) →
      Answers reader line (some (invalidEnvelope id))

section
variable {reader : Reader} {exchange : σ → Bytes → Except Transport.Error (Bytes × Text) × σ}

/-- A message that is an object has its identity. -/
theorem Message.id_of_ofValue {value id : Document} {message : Message}
    (h : Message.ofValue value = some message) (hid : idOf value = some id) : message.id = id := by
  cases value with
  | object members =>
    have hlookup : members.lookup (utf8 "id") = some id := hid
    simp only [Message.ofValue] at h
    split at h
    · obtain ⟨jsonrpc, -, h⟩ := Option.bind_eq_some_iff.mp h
      obtain ⟨method, -, h⟩ := Option.bind_eq_some_iff.mp h
      rw [← Option.some.inj h]
      show (members.lookup (utf8 "id")).getD .null = id
      rw [hlookup]
      rfl
    · cases h
  | _ => cases hid

theorem Message.idOf_of_isSome {value : Document} {message : Message}
    (h : Message.ofValue value = some message) (hsome : (idOf value).isSome = true) :
    idOf value = some message.id := by
  obtain ⟨id, hid⟩ := Option.isSome_iff_exists.mp hsome
  rw [hid, Message.id_of_ofValue h hid]

/-- A message is an object, or the array of its fields. -/
theorem Message.form_of_ofValue {value : Document} {message : Message}
    (h : Message.ofValue value = some message) :
    (∃ members, value = .object members) ∨ ∃ elements, value = .array elements := by
  cases value with
  | object members => exact .inl ⟨members, rfl⟩
  | array elements => exact .inr ⟨elements, rfl⟩
  | _ => cases h

/-- A message with an identity is an object. -/
theorem exists_members_of_idOf {value id : Document} (hid : idOf value = some id) :
    ∃ members, value = .object members := by
  cases value with
  | object members => exact ⟨members, rfl⟩
  | _ => cases hid

/-- A response carries the identity that it is given. -/
theorem get?_answered (id operationId : Document) (name : Text)
    (found : Except Transport.Error (Bytes × Text)) :
    (answered C reader id operationId name found).get? (utf8 "id") = some id := by
  unfold answered
  split
  · rfl
  · rfl
  · split
    · rfl
    · split <;> rfl

theorem get?_call (service : σ) (id : Document) (params : Option Document) :
    (call C reader exchange service id params).1.get? (utf8 "id") = some id := by
  unfold call
  split
  · rfl
  · exact get?_answered _ _ _ _

/-- **What `dispatch` says, and what it changes.** -/
inductive Dispatched (toolCall : σ → Document → Option Document → Document × σ) (message : Message)
    (hasRequestId : Bool) (c : Conversation σ) : Option Document → Conversation σ → Prop
  | invalid : (hasRequestId = true ∧ validId message.id = false) ∨ message.jsonrpc ≠ utf8 "2.0" →
      Dispatched toolCall message hasRequestId c (some (invalidEnvelope .null)) c
  | ignored : message.jsonrpc = utf8 "2.0" → hasRequestId = false →
      Dispatched toolCall message hasRequestId c none c
  | refused (code text : String) : message.jsonrpc = utf8 "2.0" → hasRequestId = true →
      validId message.id = true → (utf8 code).length ≤ 8 → (utf8 text).length ≤ 32 →
      Dispatched toolCall message hasRequestId c (some (error message.id code text)) c
  | begun : message.jsonrpc = utf8 "2.0" → hasRequestId = true → validId message.id = true →
      message.method = utf8 "initialize" → c.phase = .awaitingInitialize →
      initializeIsValid message.params = true →
      Dispatched toolCall message hasRequestId c (some (result message.id initialized))
        { c with phase := .awaitingInitialized }
  | initialized : message.jsonrpc = utf8 "2.0" → hasRequestId = false →
      message.method = utf8 "notifications/initialized" → c.phase = .awaitingInitialized →
      metadataOnly message.params = true →
      Dispatched toolCall message hasRequestId c none { c with phase := .ready }
  | list : message.jsonrpc = utf8 "2.0" → hasRequestId = true → validId message.id = true →
      c.phase = .ready → Dispatched toolCall message hasRequestId c
        (some (result message.id tools)) c
  | call : message.jsonrpc = utf8 "2.0" → hasRequestId = true → validId message.id = true →
      message.method = utf8 "tools/call" → c.phase = .ready →
      Dispatched toolCall message hasRequestId c
        (some (toolCall c.service message.id message.params).1)
        { c with service := (toolCall c.service message.id message.params).2 }

theorem dispatched_dispatch (toolCall : σ → Document → Option Document → Document × σ)
    (message : Message) (hasRequestId : Bool) (c : Conversation σ) :
    Dispatched toolCall message hasRequestId c (dispatch toolCall message hasRequestId c).1
      (dispatch toolCall message hasRequestId c).2 := by
  by_cases hinvalid : (hasRequestId = true ∧ validId message.id = false) ∨
      message.jsonrpc ≠ utf8 "2.0"
  · have hcondition : ((hasRequestId && !validId message.id) ||
        decide (message.jsonrpc ≠ utf8 "2.0")) = true := by simpa using hinvalid
    rw [dispatch, if_pos hcondition]
    exact .invalid hinvalid
  · have hcondition : ¬((hasRequestId && !validId message.id) ||
        decide (message.jsonrpc ≠ utf8 "2.0")) = true := by simpa using hinvalid
    have hversion : message.jsonrpc = utf8 "2.0" := by
      by_contra hne
      exact hinvalid (.inr hne)
    rw [dispatch, if_neg hcondition]
    cases hasRequestId with
    | false =>
      simp only [Bool.not_false, Bool.true_and, Bool.and_true, Bool.and_false, Bool.false_eq_true,
        if_false, if_true]
      split_ifs with hother hinitialized hphase
      · exact .ignored hversion rfl
      · rw [Bool.and_eq_true, decide_eq_true_eq] at hphase
        exact .initialized hversion rfl (of_decide_eq_true hinitialized) hphase.1 hphase.2
      · exact .ignored hversion rfl
      · exact .ignored hversion rfl
      · rename_i hcancelled heither
        rw [Bool.or_eq_true] at heither
        exact absurd heither (not_or.mpr ⟨hinitialized, hcancelled⟩)
      · exact .ignored hversion rfl
    | true =>
      have hid : validId message.id = true := by
        rw [← Bool.not_eq_false]
        exact fun h => hinvalid (.inl ⟨rfl, h⟩)
      simp only [Bool.not_true, Bool.false_and, Bool.and_true, Bool.and_false, Bool.false_eq_true,
        if_false]
      split_ifs with hinitialize hwrong hnotification htool hphase hlist hmetadata
      · exact .refused _ _ hversion rfl hid (by decide) (by decide)
      · rw [Bool.or_eq_true, not_or, decide_eq_true_eq, not_not, Bool.not_eq_true', Bool.not_eq_false]
          at hwrong
        exact .begun hversion rfl hid (of_decide_eq_true hinitialize) hwrong.1 hwrong.2
      · exact .refused _ _ hversion rfl hid (by decide) (by decide)
      · exact .refused _ _ hversion rfl hid (by decide) (by decide)
      · exact .refused _ _ hversion rfl hid (by decide) (by decide)
      · exact .list hversion rfl hid (not_not.mp hphase)
      · rw [Bool.or_eq_true, decide_eq_true_eq, decide_eq_true_eq] at htool
        exact .call hversion rfl hid (htool.resolve_left hlist) (not_not.mp hphase)
      · exact .refused _ _ hversion rfl hid (by decide) (by decide)

theorem handle_of_message {line : Bytes} {c : Conversation σ} {value : Document} {message : Message}
    (hvalue : unique reader line = some value) (hmessage : Message.ofValue value = some message) :
    handle C reader exchange line c =
      dispatch (call C reader exchange) message (idOf value).isSome c := by
  simp only [handle, hvalue, hmessage]

theorem handle_of_invalid {line : Bytes} {c : Conversation σ} {value : Document}
    (hvalue : unique reader line = some value) (hmessage : Message.ofValue value = none) :
    handle C reader exchange line c =
      (some (invalidEnvelope (((idOf value).filter validId).getD .null)), c) := by
  simp only [handle, hvalue, hmessage]

/-- **How a line is handled.** -/
inductive Handled (reader : Reader) (toolCall : σ → Document → Option Document → Document × σ)
    (line : Bytes) (c : Conversation σ) : Option Document → Conversation σ → Prop
  | unparsed : unique reader line = none →
      Handled reader toolCall line c (some (error .null "-32700" "Parse error")) c
  | invalid (value id : Document) : unique reader line = some value →
      Message.ofValue value = none → (id = .null ∨ idOf value = some id ∧ validId id = true) →
      Handled reader toolCall line c (some (invalidEnvelope id)) c
  | dispatched (value : Document) (message : Message) (response : Option Document)
      (c' : Conversation σ) : unique reader line = some value →
      Message.ofValue value = some message →
      Dispatched toolCall message (idOf value).isSome c response c' →
      Handled reader toolCall line c response c'

theorem handled_handle (line : Bytes) (c : Conversation σ) :
    Handled reader (call C reader exchange) line c (handle C reader exchange line c).1
      (handle C reader exchange line c).2 := by
  cases hvalue : unique reader line with
  | none =>
    rw [handle, hvalue]
    exact .unparsed hvalue
  | some value =>
    cases hmessage : Message.ofValue value with
    | none =>
      rw [handle_of_invalid hvalue hmessage]
      refine .invalid value _ hvalue hmessage ?_
      cases hid : idOf value with
      | none => exact .inl rfl
      | some id =>
        cases hvalid : validId id with
        | true =>
          rw [Option.filter_some_pos hvalid]
          exact .inr ⟨rfl, hvalid⟩
        | false =>
          rw [Option.filter_some_neg hvalid]
          exact .inl rfl
    | some message =>
      rw [handle_of_message hvalue hmessage]
      exact .dispatched value message _ _ hvalue hmessage (dispatched_dispatch _ message _ c)

/-- A request is answered with its identity. -/
theorem answers_request {line : Bytes} {value response : Document} {message : Message}
    (hvalue : unique reader line = some value) (hmessage : Message.ofValue value = some message)
    (hversion : message.jsonrpc = utf8 "2.0") (hsome : (idOf value).isSome = true)
    (hvalid : validId message.id = true) (hresponse : response.get? (utf8 "id") = some message.id) :
    Answers reader line (some response) := by
  have hid := Message.idOf_of_isSome hmessage hsome
  obtain ⟨members, rfl⟩ := exists_members_of_idOf hid
  exact .request members message.id response message hvalue hmessage hid hvalid hversion hresponse

/-- What is no request is not answered. -/
theorem answers_notification {line : Bytes} {value : Document} {message : Message}
    (hvalue : unique reader line = some value) (hmessage : Message.ofValue value = some message)
    (hversion : message.jsonrpc = utf8 "2.0") (hnone : (idOf value).isSome = false) :
    Answers reader line none := by
  rw [Option.isSome_eq_false_iff, Option.isNone_iff_eq_none] at hnone
  rcases Message.form_of_ofValue hmessage with ⟨members, rfl⟩ | ⟨elements, rfl⟩
  · exact .notification members message hvalue hmessage hnone hversion
  · exact .positional elements message hvalue hmessage hversion

/-- **Every line is answered as it should be**, whatever the phase. -/
theorem answers_handle (line : Bytes) (c : Conversation σ) :
    Answers reader line (handle C reader exchange line c).1 := by
  have hhandled : Handled reader (call C reader exchange) line c _ _ := handled_handle line c
  generalize (handle C reader exchange line c).1 = found at hhandled ⊢
  generalize (handle C reader exchange line c).2 = c' at hhandled
  cases hhandled with
  | unparsed hvalue => exact .unparsed hvalue
  | invalid value id hvalue hmessage hid =>
    refine .refused value id hvalue (fun message h => ?_) hid
    rw [hmessage] at h
    cases h
  | dispatched value message _ _ hvalue hmessage hdispatched =>
    cases hdispatched with
    | invalid hinvalid =>
      refine .refused value .null hvalue (fun other hother => ?_) (.inl rfl)
      obtain rfl := Option.some.inj (hmessage.symm.trans hother)
      rcases hinvalid with ⟨hsome, hinvalid⟩ | hversion
      · exact .inr ⟨message.id, Message.idOf_of_isSome hmessage hsome, hinvalid⟩
      · exact .inl hversion
    | ignored hversion hnone => exact answers_notification hvalue hmessage hversion hnone
    | refused code text hversion hsome hvalid =>
      exact answers_request hvalue hmessage hversion hsome hvalid rfl
    | begun hversion hsome hvalid =>
      exact answers_request hvalue hmessage hversion hsome hvalid rfl
    | initialized hversion hnone => exact answers_notification hvalue hmessage hversion hnone
    | list hversion hsome hvalid => exact answers_request hvalue hmessage hversion hsome hvalid rfl
    | call hversion hsome hvalid =>
      exact answers_request hvalue hmessage hversion hsome hvalid
        (get?_call c.service message.id message.params)

/-- What a line changes: the phase by one step of the handshake, or the service by a tool call. -/
inductive Moves (C : Crypto) (reader : Reader)
    (exchange : σ → Bytes → Except Transport.Error (Bytes × Text) × σ) (line : Bytes)
    (c : Conversation σ) : Conversation σ → Prop
  | still : Moves C reader exchange line c c
  | begun : Initializes reader line → c.phase = .awaitingInitialize →
      Moves C reader exchange line c { c with phase := .awaitingInitialized }
  | initialized : Confirms reader line → c.phase = .awaitingInitialized →
      Moves C reader exchange line c { c with phase := .ready }
  | call (id : Document) (params : Option Document) (tool : Text) (request : Document) :
      Calls reader line id params tool request → c.phase = .ready →
      Moves C reader exchange line c
        { c with service := (call C reader exchange c.service id params).2 }

/-- **What one line changes.** -/
theorem moves_handle (line : Bytes) (c : Conversation σ) :
    Moves C reader exchange line c (handle C reader exchange line c).2 := by
  have hhandled : Handled reader (call C reader exchange) line c _ _ := handled_handle line c
  generalize (handle C reader exchange line c).1 = found at hhandled
  generalize (handle C reader exchange line c).2 = c' at hhandled ⊢
  cases hhandled with
  | unparsed => exact .still
  | invalid => exact .still
  | dispatched value message _ _ hvalue hmessage hdispatched =>
    cases hdispatched with
    | begun hversion hsome hvalid hmethod hphase hparams =>
      exact .begun ⟨value, message, hvalue, hmessage, hsome, hvalid, hversion, hmethod,
        hparams⟩ hphase
    | initialized hversion hnone hmethod hphase hparams =>
      refine .initialized ?_ hphase
      rw [Option.isSome_eq_false_iff, Option.isNone_iff_eq_none] at hnone
      rcases Message.form_of_ofValue hmessage with ⟨members, rfl⟩ | ⟨elements, rfl⟩
      · exact .inl ⟨members, message, hvalue, hmessage, hnone, hversion, hmethod, hparams⟩
      · exact .inr ⟨elements, message, hvalue, hmessage, hversion, hmethod, hparams⟩
    | call hversion hsome hvalid hmethod hphase =>
      cases hcall : decodeCall message.params with
      | none =>
        have hsame : (call C reader exchange c.service message.id message.params).2 =
          c.service := by rw [call, hcall]
        rw [hsame]
        exact .still
      | some found =>
        exact .call message.id message.params found.1 found.2 ⟨value, message, hvalue, hmessage,
          Message.idOf_of_isSome hmessage hsome, hvalid, hversion, hmethod, rfl, hcall⟩ hphase
    | _ => exact .still

/-- The first step of the handshake is made where it is due. -/
theorem handle_of_initializes {line : Bytes} {c : Conversation σ} (h : Initializes reader line)
    (hphase : c.phase = .awaitingInitialize) :
    (handle C reader exchange line c).2.phase = .awaitingInitialized := by
  obtain ⟨value, message, hvalue, hmessage, hsome, hvalid, hversion, hmethod, hparams⟩ := h
  rw [handle_of_message hvalue hmessage, hsome]
  simp [dispatch, hvalid, hversion, hmethod, hparams, hphase]

/-- The second step of the handshake is made where it is due. -/
theorem handle_of_confirms {line : Bytes} {c : Conversation σ} (h : Confirms reader line)
    (hphase : c.phase = .awaitingInitialized) :
    (handle C reader exchange line c).2.phase = .ready := by
  have hboth : ∃ value message, unique reader line = some value ∧
      Message.ofValue value = some message ∧ idOf value = none ∧ message.jsonrpc = utf8 "2.0" ∧
      message.method = utf8 "notifications/initialized" ∧ metadataOnly message.params = true := by
    rcases h with ⟨members, message, hvalue, hmessage, hnone, hrest⟩ |
      ⟨elements, message, hvalue, hmessage, hrest⟩
    · exact ⟨_, message, hvalue, hmessage, hnone, hrest⟩
    · exact ⟨_, message, hvalue, hmessage, rfl, hrest⟩
  obtain ⟨value, message, hvalue, hmessage, hnone, hversion, hmethod, hparams⟩ := hboth
  rw [handle_of_message hvalue hmessage, hnone]
  simp [dispatch, hversion, hmethod, hparams, hphase]

/-- A tool call is made where tools are ready. -/
theorem handle_of_calls {line : Bytes} {c : Conversation σ} {id : Document}
    {params : Option Document} {tool : Text} {request : Document}
    (h : Calls reader line id params tool request) (hphase : c.phase = .ready) :
    handle C reader exchange line c = (some (call C reader exchange c.service id params).1,
      { c with service := (call C reader exchange c.service id params).2 }) := by
  obtain ⟨value, message, hvalue, hmessage, hid, hvalid, hversion, hmethod, rfl, -⟩ := h
  have hsame := Message.id_of_ofValue hmessage hid
  have hother : ∀ method ∈ ["initialize", "notifications/initialized", "notifications/cancelled",
      "tools/list"], utf8 "tools/call" ≠ utf8 method := by decide
  have hfirst := hother _ List.mem_cons_self
  have hsecond := hother _ (.tail _ (.head _))
  have hthird := hother _ (.tail _ (.tail _ (.head _)))
  have hfourth := hother _ (.tail _ (.tail _ (.tail _ (.head _))))
  rw [handle_of_message hvalue hmessage, hid]
  simp [dispatch, hsame, hvalid, hversion, hmethod, hphase, hfirst, hsecond, hthird, hfourth]

/-- **How a line moves the handshake.** -/
theorem phase_handle (C : Crypto) (reader : Reader)
    (exchange : σ → Bytes → Except Transport.Error (Bytes × Text) × σ) (line : Bytes)
    (c : Conversation σ) :
    ((handle C reader exchange line c).2.phase ≠ .awaitingInitialize ↔
      c.phase ≠ .awaitingInitialize ∨ Initializes reader line) ∧
    ((handle C reader exchange line c).2.phase = .ready ↔
      c.phase = .ready ∨ c.phase = .awaitingInitialized ∧ Confirms reader line) := by
  have hfirst : Initializes reader line → c.phase = .awaitingInitialize →
      (handle C reader exchange line c).2.phase = .awaitingInitialized := handle_of_initializes
  have hsecond : Confirms reader line → c.phase = .awaitingInitialized →
      (handle C reader exchange line c).2.phase = .ready := handle_of_confirms
  have hmoves : Moves C reader exchange line c (handle C reader exchange line c).2 :=
    moves_handle line c
  generalize (handle C reader exchange line c).2 = c' at hmoves hfirst hsecond
  cases hmoves with
  | still =>
    refine ⟨⟨.inl, ?_⟩, ⟨.inl, ?_⟩⟩
    · rintro (hphase | hline) heq
      · exact hphase heq
      · have hnext := hfirst hline heq
        rw [heq] at hnext
        cases hnext
    · rintro (hphase | ⟨hphase, hline⟩)
      · exact hphase
      · exact hsecond hline hphase
  | begun hline hphase =>
    refine ⟨iff_of_true (by rintro ⟨⟩) (.inr hline), iff_of_false (by rintro ⟨⟩) ?_⟩
    rw [hphase]
    rintro (heq | ⟨heq, -⟩) <;> cases heq
  | initialized hline hphase =>
    refine ⟨iff_of_true (by rintro ⟨⟩) (.inl ?_), iff_of_true rfl (.inr ⟨hphase, hline⟩)⟩
    rw [hphase]
    rintro ⟨⟩
  | call id params tool request hcalls hphase =>
    have hready : c.phase ≠ .awaitingInitialize := by
      rw [hphase]
      rintro ⟨⟩
    exact ⟨iff_of_true hready (.inl hready), iff_of_true hphase (.inl hphase)⟩

/-! ## The lines that are written -/

/-- A number that stands as the identity of a request is printed in a few bytes. -/
def ShortNumbers (reader : Reader) : Prop :=
  ∀ line value token, unique reader line = some value →
    idOf value = some (.number token) → token.length ≤ 32

/-- What the service replies to the requests of the bridge is accepted. -/
def Accepted (C : Crypto) (reader : Reader)
    (exchange : σ → Bytes → Except Transport.Error (Bytes × Text) × σ) : Prop :=
  ∀ service request command reply status, Sends reader request command →
    (exchange service request).1 = .ok (reply, status) →
      ∃ value, Accepts C reader command.tool reply value

theorem length_error (id : Document) (code message : String) :
    (error id code message).print.length =
      id.print.length + (utf8 code).length + (quote (utf8 message)).length + 52 := by
  have hprint : (error id code message).print = utf8 "\x7b\"error\":\x7b\"code\":" ++ utf8 code ++
      (utf8 ",\"message\":" ++ quote (utf8 message) ++
        (utf8 "\x7d,\"id\":" ++ id.print ++ utf8 ",\"jsonrpc\":\"2.0\"\x7d")) := by
    show (Document.object (named [("error", .object (named [("code", .number (utf8 code)),
      ("message", word message)])), ("id", id), ("jsonrpc", word "2.0")])).print = _
    simp only [named, List.map_cons, List.map_nil, print, printMembers, printMoreMembers, word,
      List.append_nil, List.append_assoc, List.cons_append]
    rfl
  have hfirst : (utf8 "\x7b\"error\":\x7b\"code\":").length = 17 := by decide
  have hsecond : (utf8 ",\"message\":").length = 11 := by decide
  have hthird : (utf8 "\x7d,\"id\":").length = 7 := by decide
  have hlast : (utf8 ",\"jsonrpc\":\"2.0\"\x7d").length = 17 := by decide
  rw [hprint]
  simp only [List.length_append, hfirst, hsecond, hthird, hlast]
  omega

theorem length_id {id : Document} (hvalid : validId id = true)
    (hshort : ∀ token, id = .number token → token.length ≤ 32) : id.print.length ≤ 1024 := by
  cases id with
  | number token => exact (hshort token rfl).trans (by decide)
  | string text =>
    have hlength : text.length ≤ 128 := of_decide_eq_true hvalid
    have hquote := length_quote text
    have hescapes := textEscapes_le text
    show (quote text).length ≤ 1024
    omega
  | _ => cases hvalid

theorem length_refused {id : Document} {code message : String} (hid : id.print.length ≤ 1024)
    (hcode : (utf8 code).length ≤ 8) (hmessage : (utf8 message).length ≤ 32) :
    (error id code message).print.length < outputMax := by
  have hlength := length_error id code message
  have hquote := length_quote (utf8 message)
  have hescapes := textEscapes_le (utf8 message)
  unfold outputMax
  omega

theorem length_resulted {id value : Document} (hid : id.print.length ≤ 1024)
    (hvalue : value.print.length ≤ 4096) : (result id value).print.length < outputMax := by
  have hlength := length_result id value
  unfold outputMax
  omega

/-- A tool call is answered with a line. -/
theorem length_call (hservice : Accepted C reader exchange) (service : σ) {id : Document}
    (hid : id.print.length ≤ 1024) (params : Option Document) :
    (call C reader exchange service id params).1.print.length < outputMax := by
  cases hcall : decodeCall params with
  | none =>
    rw [call, hcall]
    exact length_refused hid (by decide) (by decide)
  | some found =>
    obtain ⟨tool, request⟩ := found
    obtain ⟨-, arguments, command, -, -, hasks, hsends, -⟩ :=
      @sends_of_decodeCall reader _ _ _ hcall
    obtain ⟨hreadable, hlength⟩ := length_requestedId hcall
    have hfailure : ∀ kind ∈ ["response_invalid", "service_exchange_uncertain"],
        (serviceFailure id (requestedId request) kind).print.length < outputMax := by
      intro kind hkind
      have hboth : ∀ kind ∈ ["response_invalid", "service_exchange_uncertain"],
          (json [("status", word "ERROR"), ("error_class", word kind)]).readable 127 = true ∧
          (json [("status", word "ERROR"), ("error_class", word kind)]).print.length ≤ 40 * 1024 := by
        decide
      exact length_toolResult_le hid hreadable hlength (hboth kind hkind).1 (hboth kind hkind).2
    have hanswered : (call C reader exchange service id params).1 =
        answered C reader id (requestedId request) tool (exchange service request.print).1 := by
      rw [call, hcall]
    rw [hanswered]
    cases hexchange : (exchange service request.print).1 with
    | error failure =>
      cases failure with
      | response => exact hfailure _ List.mem_cons_self
      | _ => exact hfailure _ (.tail _ (.head _))
    | ok found =>
      obtain ⟨reply, status⟩ := found
      obtain ⟨value, haccepts⟩ := hservice service request.print command reply status hsends hexchange
      obtain ⟨envelope, henvelope⟩ := Option.isSome_iff_exists.mp haccepts.envelope
      have hreply := (Transport.length_of_envelope henvelope).2
      rw [answered_of_accepts (tool_of_asks hasks) haccepts]
      refine length_toolResult_le hid hreadable hlength haccepts.readable ?_
      rw [haccepts.length_eq]
      exact hreply

/-- **Every response fits a line.** -/
theorem length_handle (hreader : ShortNumbers reader) (hservice : Accepted C reader exchange)
    (line : Bytes) (c : Conversation σ) :
    ∀ response ∈ (handle C reader exchange line c).1, response.print.length < outputMax := by
  have hnull : Document.null.print.length ≤ 1024 := by decide
  have hid : ∀ value id, unique reader line = some value → idOf value = some id →
      validId id = true → id.print.length ≤ 1024 := by
    intro value id hvalue hid hvalid
    refine length_id hvalid ?_
    rintro token rfl
    exact hreader line value token hvalue hid
  have hhandled : Handled reader (call C reader exchange) line c _ _ := handled_handle line c
  intro response hresponse
  rw [Option.mem_def.mp hresponse] at hhandled
  generalize (handle C reader exchange line c).2 = c' at hhandled
  cases hhandled with
  | unparsed => exact length_refused hnull (by decide) (by decide)
  | invalid value id hvalue _ hreturned =>
    refine length_refused ?_ (by decide) (by decide)
    rcases hreturned with rfl | ⟨hsome, hvalid⟩
    · exact hnull
    · exact hid value id hvalue hsome hvalid
  | dispatched value message _ _ hvalue hmessage hdispatched =>
    have hown : (idOf value).isSome = true → validId message.id = true →
        message.id.print.length ≤ 1024 := fun hsome =>
      hid value message.id hvalue (Message.idOf_of_isSome hmessage hsome)
    cases hdispatched with
    | invalid => exact length_refused hnull (by decide) (by decide)
    | refused code text _ hsome hvalid hcode htext =>
      exact length_refused (hown hsome hvalid) hcode htext
    | begun _ hsome hvalid => exact length_resulted (hown hsome hvalid) (by decide +kernel)
    | list _ hsome hvalid => exact length_resulted (hown hsome hvalid) (by decide +kernel)
    | call _ hsome hvalid =>
      exact length_call hservice c.service (hown hsome hvalid) message.params

/-! ## A whole session -/

/-- The conversation behind these lines. -/
def conversation (C : Crypto) (reader : Reader)
    (exchange : σ → Bytes → Except Transport.Error (Bytes × Text) × σ) (c : Conversation σ)
    (lines : List Bytes) : Conversation σ :=
  lines.foldl (fun c line => (handle C reader exchange (stripped line) c).2) c

/-- What is written for these lines. -/
def transcript (C : Crypto) (reader : Reader)
    (exchange : σ → Bytes → Except Transport.Error (Bytes × Text) × σ) :
    Conversation σ → List Bytes → List Bytes
  | _, [] => []
  | c, line :: rest =>
      ((handle C reader exchange (stripped line) c).1.map lineOf).toList ++
        transcript C reader exchange (handle C reader exchange (stripped line) c).2 rest

/-- Both steps of the handshake are among the lines, in their order. -/
def Shaken (reader : Reader) (lines : List Bytes) : Prop :=
  ∃ a b, [a, b].Sublist lines ∧ Initializes reader (stripped a) ∧ Confirms reader (stripped b)

theorem conversation_concat (c : Conversation σ) (lines : List Bytes) (line : Bytes) :
    conversation C reader exchange c (lines ++ [line]) =
      (handle C reader exchange (stripped line) (conversation C reader exchange c lines)).2 :=
  List.foldl_concat ..

theorem shaken_concat {lines : List Bytes} {line : Bytes} : Shaken reader (lines ++ [line]) ↔
    Shaken reader lines ∨
      (∃ a ∈ lines, Initializes reader (stripped a)) ∧ Confirms reader (stripped line) := by
  constructor
  · rintro ⟨a, b, hsublist, ha, hb⟩
    obtain ⟨first, second, heq, hfirst, hsecond⟩ := List.sublist_append_iff.mp hsublist
    rcases List.sublist_singleton.mp hsecond with rfl | rfl
    · rw [List.append_nil] at heq
      exact .inl ⟨a, b, heq ▸ hfirst, ha, hb⟩
    · obtain ⟨hfront, hback⟩ := List.append_inj' (show [a] ++ [b] = first ++ [line] from heq) rfl
      obtain rfl := List.singleton_inj.mp hback
      exact .inr ⟨⟨a, List.singleton_sublist.mp (hfront ▸ hfirst), ha⟩, hb⟩
  · rintro (⟨a, b, hsublist, ha, hb⟩ | ⟨⟨a, hmem, ha⟩, hline⟩)
    · exact ⟨a, b, hsublist.trans (List.sublist_append_left lines [line]), ha, hb⟩
    · exact ⟨a, line, (List.singleton_sublist.mpr hmem).append (List.Sublist.refl [line]), ha, hline⟩

/-- **Where the handshake stands** behind these lines, in every session. -/
theorem phase_conversation (service : σ) (lines : List Bytes) :
    ((conversation C reader exchange ⟨.awaitingInitialize, service⟩ lines).phase ≠
      .awaitingInitialize ↔ ∃ a ∈ lines, Initializes reader (stripped a)) ∧
    ((conversation C reader exchange ⟨.awaitingInitialize, service⟩ lines).phase = .ready ↔
      Shaken reader lines) := by
  induction lines using List.reverseRecOn with
  | nil =>
    refine ⟨iff_of_false (fun h => h rfl) ?_, iff_of_false (by rintro ⟨⟩) ?_⟩
    · rintro ⟨a, hmem, -⟩
      exact List.not_mem_nil hmem
    · rintro ⟨a, b, hsublist, -⟩
      cases hsublist
  | append_singleton lines line ih =>
    obtain ⟨hbegun, hready⟩ := phase_handle C reader exchange (stripped line)
      (conversation C reader exchange ⟨.awaitingInitialize, service⟩ lines)
    rw [conversation_concat, hbegun, hready, ih.1, shaken_concat]
    refine ⟨?_, ?_, ?_⟩
    · simp only [List.mem_append, List.mem_singleton, or_and_right, exists_or, exists_eq_left]
    · rintro (hphase | ⟨hphase, hline⟩)
      · exact .inl (ih.2.mp hphase)
      · refine .inr ⟨ih.1.mp ?_, hline⟩
        rw [hphase]
        rintro ⟨⟩
    · rintro (hshaken | ⟨hfirst, hline⟩)
      · exact .inl (ih.2.mpr hshaken)
      · have hstarted := ih.1.mpr hfirst
        cases hphase : (conversation C reader exchange ⟨.awaitingInitialize, service⟩ lines).phase with
        | awaitingInitialize => exact absurd hphase hstarted
        | awaitingInitialized => exact .inr ⟨rfl, hline⟩
        | ready => exact .inl rfl

/-- **How a session of these lines and this tail ends.**  Either all lines are handled, and the exit
code is of the tail and of the read behind it, or the output fails at a response, which is the last
thing that is done. -/
inductive Ends (C : Crypto) (reader : Reader)
    (exchange : σ → Bytes → Except Transport.Error (Bytes × Text) × σ) (streams : Streams)
    (c : Conversation σ) (lines : List Bytes) (tail : Bytes) : Outcome σ → Prop
  | input : (∀ n ∈ streams.lines, (transcript C reader exchange c lines).length ≤ n) →
      Ends C reader exchange streams c lines tail
        ⟨transcript C reader exchange c lines, (conversation C reader exchange c lines).service,
          if streams.readFails = true ∧ tail.length ≤ inputMax then 4
          else if tail = [] then 0 else 2⟩
  | output (before : List Bytes) (line : Bytes) (after : List Bytes) (response : Document) :
      lines = before ++ line :: after →
      streams.lines = some (transcript C reader exchange c before).length →
      (handle C reader exchange (stripped line) (conversation C reader exchange c before)).1 =
        some response →
      Ends C reader exchange streams c lines tail
        ⟨transcript C reader exchange c before,
          (conversation C reader exchange c (before ++ [line])).service, 4⟩

/-- Where no line can be read, the session ends. -/
theorem session_stuck {input : Bytes} (streams : Streams) (c : Conversation σ)
    (h : Stuck 10 inputMax input) : session C reader exchange streams c input =
      ⟨[], c.service, if streams.readFails = true ∧ input.length ≤ inputMax then 4
        else if input = [] then 0 else 2⟩ := by
  rw [session]
  by_cases hlength : input.length ≤ inputMax
  · have hread := upTo_of_stuck h hlength
    have hlast : input.getLast? ≠ some 10 := by
      intro hlast
      rw [← hread] at hlast
      obtain ⟨line, rest, rfl, hline, -⟩ := exists_line hlast
      have hlong := h line rest rfl hline
      rw [List.length_append, List.length_cons] at hlength
      omega
    cases hfails : streams.readFails with
    | true => simp [hread, hlength, hlast]
    | false =>
      cases input with
      | nil => simp [hread]
      | cons b rest => simp [hread, hlast]
  · have hread := length_upTo_of_stuck h (Nat.not_le.mp hlength)
    have hempty : upTo 10 (inputMax + 1) input ≠ [] := by
      rw [← List.length_pos_iff, hread]
      exact Nat.succ_pos inputMax
    have hne : input ≠ [] := by
      rintro rfl
      exact hlength (Nat.zero_le _)
    simp [hread, hempty, hlength, hne]

section
variable {line rest : Bytes} {streams : Streams} {c : Conversation σ}

/-- A line is read with its end, and nothing stops the session before it is handled. -/
theorem read_line (hline : 10 ∉ line) (hshort : line.length < inputMax) (rest : Bytes) :
    upTo 10 (inputMax + 1) (line ++ 10 :: rest) = line ++ [10] ∧
      (line ++ [(10 : UInt8)]).getLast? = some 10 ∧ ¬inputMax < (line ++ [(10 : UInt8)]).length ∧
      line ++ [(10 : UInt8)] ≠ [] := by
  refine ⟨upTo_line hline (Nat.lt_succ_of_lt hshort), List.getLast?_concat, ?_, by simp⟩
  rw [List.length_append, List.length_singleton]
  exact Nat.not_lt.mpr hshort

/-- A line that is not answered is handled, and the session goes on behind it. -/
theorem session_silent (hline : 10 ∉ line) (hshort : line.length < inputMax)
    (hhandled : (handle C reader exchange (stripped line) c).1 = none) :
    session C reader exchange streams c (line ++ 10 :: rest) =
      session C reader exchange streams (handle C reader exchange (stripped line) c).2 rest := by
  obtain ⟨hread, hlast, hbound, hempty⟩ := read_line hline hshort rest
  rw [session]
  simp [hread, hlast, hbound, hempty, hhandled, drop_line, -List.getLast?_append,
    -List.length_append]

/-- A line that is answered is handled, and the session goes on behind it unless the output fails. -/
theorem session_answered (hline : 10 ∉ line) (hshort : line.length < inputMax) {response : Document}
    (hhandled : (handle C reader exchange (stripped line) c).1 = some response)
    (hresponse : response.print.length < outputMax) :
    session C reader exchange streams c (line ++ 10 :: rest) =
      if streams.lines = some 0 then
        ⟨[], (handle C reader exchange (stripped line) c).2.service, 4⟩
      else
        { session C reader exchange streams.wrote (handle C reader exchange (stripped line) c).2
            rest with
          written := lineOf response :: (session C reader exchange streams.wrote
            (handle C reader exchange (stripped line) c).2 rest).written } := by
  obtain ⟨hread, hlast, hbound, hempty⟩ := read_line hline hshort rest
  have hfits : ¬outputMax < (lineOf response).length := by
    rw [lineOf, List.length_append, List.length_singleton]
    omega
  rw [session]
  simp [hread, hlast, hbound, hempty, hhandled, hfits, drop_line, -List.getLast?_append,
    -List.length_append]

end

section
variable {c c' : Conversation σ} {lines : List Bytes} {line tail : Bytes} {streams : Streams}
  {found : Outcome σ}

/-- A line that is not answered, before a session that ends so. -/
theorem Ends.silent (hhandled : handle C reader exchange (stripped line) c = (none, c'))
    (h : Ends C reader exchange streams c' lines tail found) :
    Ends C reader exchange streams c (line :: lines) tail found := by
  have htranscript : ∀ lines, transcript C reader exchange c (line :: lines) =
      transcript C reader exchange c' lines := by
    intro lines
    rw [transcript, hhandled]
    rfl
  have hconversation : ∀ lines, conversation C reader exchange c (line :: lines) =
      conversation C reader exchange c' lines := by
    intro lines
    rw [conversation, List.foldl_cons, hhandled]
    rfl
  cases h with
  | input hroom =>
    rw [← htranscript, ← hconversation]
    exact .input (by rwa [htranscript])
  | output before last after response hlines hfull hlast =>
    rw [← htranscript, ← hconversation]
    exact .output (line :: before) last after response (by rw [hlines]; rfl)
      (by rwa [htranscript]) (by rwa [hconversation])

/-- A line that is answered, and whose response is written, before a session that ends so. -/
theorem Ends.answered {response : Document}
    (hhandled : handle C reader exchange (stripped line) c = (some response, c'))
    (hroom : streams.lines ≠ some 0)
    (h : Ends C reader exchange streams.wrote c' lines tail found) :
    Ends C reader exchange streams c (line :: lines) tail
      { found with written := lineOf response :: found.written } := by
  have htranscript : ∀ lines, transcript C reader exchange c (line :: lines) =
      lineOf response :: transcript C reader exchange c' lines := by
    intro lines
    rw [transcript, hhandled]
    rfl
  have hconversation : ∀ lines, conversation C reader exchange c (line :: lines) =
      conversation C reader exchange c' lines := by
    intro lines
    rw [conversation, List.foldl_cons, hhandled]
    rfl
  cases h with
  | input hwrote =>
    rw [← hconversation]
    show Ends C reader exchange streams c (line :: lines) tail
      ⟨lineOf response :: transcript C reader exchange c' lines, _, _⟩
    rw [← htranscript]
    refine .input fun n hn => ?_
    have hpos : n ≠ 0 := by
      rintro rfl
      exact hroom hn
    have hle := hwrote (n - 1) (Option.map_eq_some_iff.mpr ⟨n, hn, rfl⟩)
    rw [htranscript, List.length_cons]
    omega
  | output before last after other hlines hfull hlast =>
    rw [← hconversation]
    show Ends C reader exchange streams c (line :: lines) tail
      ⟨lineOf response :: transcript C reader exchange c' before, _, _⟩
    rw [← htranscript]
    refine .output (line :: before) last after other (by rw [hlines]; rfl) ?_
      (by rwa [hconversation])
    obtain ⟨n, hn, hpred⟩ := Option.map_eq_some_iff.mp hfull
    have hpos : n ≠ 0 := by
      rintro rfl
      exact hroom hn
    rw [hn, htranscript, List.length_cons]
    exact congrArg some (by omega)

end

/-- A session of lines and a tail. -/
theorem ends_session (hreader : ShortNumbers reader) (hservice : Accepted C reader exchange)
    {lines : List Bytes} {tail : Bytes} (streams : Streams) (c : Conversation σ)
    (hlines : ∀ line ∈ lines, 10 ∉ line ∧ line.length < inputMax) (htail : Stuck 10 inputMax tail) :
    Ends C reader exchange streams c lines tail
      (session C reader exchange streams c (joined 10 lines ++ tail)) := by
  induction lines generalizing c streams with
  | nil =>
    rw [joined, List.flatMap_nil, List.nil_append, session_stuck streams c htail]
    exact .input fun _ _ => Nat.zero_le _
  | cons line lines ih =>
    obtain ⟨hline, hshort⟩ := hlines line List.mem_cons_self
    have hrest := fun streams => ih streams (handle C reader exchange (stripped line) c).2
      fun other hother => hlines other (List.mem_cons_of_mem line hother)
    have hresponse := length_handle hreader hservice (stripped line) c
    rw [joined_cons, List.append_assoc, List.cons_append]
    cases hhandled : (handle C reader exchange (stripped line) c).1 with
    | none =>
      rw [session_silent hline hshort hhandled]
      exact .silent (Prod.ext hhandled rfl) (hrest streams)
    | some response =>
      rw [session_answered hline hshort hhandled (hresponse response hhandled)]
      split
      · rename_i hroom
        exact .output [] line lines response rfl hroom hhandled
      · rename_i hroom
        exact .answered (Prod.ext hhandled rfl) hroom (hrest streams.wrote)

/-- Every line that is written fits. -/
theorem length_transcript (hreader : ShortNumbers reader) (hservice : Accepted C reader exchange)
    (c : Conversation σ) (lines : List Bytes) :
    ∀ line ∈ transcript C reader exchange c lines, line.length ≤ outputMax := by
  induction lines generalizing c with
  | nil => exact fun _ hmem => absurd hmem List.not_mem_nil
  | cons first lines ih =>
    intro line hmem
    rcases List.mem_append.mp hmem with hline | hrest
    · obtain ⟨response, hresponse, rfl⟩ := Option.map_eq_some_iff.mp (Option.mem_toList.mp hline)
      have hlength := length_handle hreader hservice (stripped first) c response hresponse
      rw [lineOf, List.length_append, List.length_singleton]
      omega
    · exact ih _ line hrest

/-- What one line makes of the service: a tool call behind the handshake reaches it, and nothing else
does. -/
theorem service_handle (line : Bytes) (c : Conversation σ) :
    (c.phase = .ready ∧ ∃ id params tool request, Calls reader line id params tool request ∧
      handle C reader exchange line c = (some (call C reader exchange c.service id params).1,
        { c with service := (call C reader exchange c.service id params).2 })) ∨
    (¬(c.phase = .ready ∧ ∃ id params tool request, Calls reader line id params tool request) ∧
      (handle C reader exchange line c).2.service = c.service) := by
  by_cases hcalls : c.phase = .ready ∧ ∃ id params tool request, Calls reader line id params tool request
  · obtain ⟨hphase, id, params, tool, request, hcall⟩ := hcalls
    exact .inl ⟨hphase, id, params, tool, request, hcall, handle_of_calls hcall hphase⟩
  · refine .inr ⟨hcalls, ?_⟩
    have hmoves : Moves C reader exchange line c (handle C reader exchange line c).2 :=
      moves_handle line c
    generalize (handle C reader exchange line c).2 = c' at hmoves
    cases hmoves with
    | call id params tool request hcall hphase =>
      exact absurd ⟨hphase, id, params, tool, request, hcall⟩ hcalls
    | _ => rfl

end

/-! ## Replies of the daemon -/

/-- The line of a reply that the bridge accepts is within its bound, for every request with a valid
identity. -/
theorem length_lineOf_reply (hreader : ShortNumbers reader) {tool : String} {reply : Bytes}
    {value : Document} {kind : ResponseClass} (haccepts : Accepts C reader tool reply value)
    (hallowed : responseLengthAllowed reply.length kind = true) {line : Bytes}
    {request id : Document} (hline : unique reader line = some request)
    (hid : idOf request = some id) (hvalid : validId id = true) {params : Option Document}
    {name : Text} {asked : Document} (hcall : decodeCall params = some (name, asked))
    (failed : Bool) : (lineOf (toolResult id (requestedId asked) value failed)).length ≤ outputMax := by
  obtain ⟨hreadable, hlength⟩ := length_requestedId hcall
  have hshort : id.print.length ≤ 1024 := by
    refine length_id hvalid fun token htoken => hreader line request token hline ?_
    rw [hid, htoken]
  have hvalue : value.print.length ≤ 40 * 1024 := by
    rw [haccepts.length_eq]
    exact length_le_of_allowed hallowed
  have hresult : (toolResult id (requestedId asked) value failed).print.length < outputMax :=
    length_toolResult_le hshort hreadable hlength haccepts.readable hvalue
  rw [lineOf, List.length_append, List.length_singleton]
  exact hresult

/-- **Every reply of the daemon passes the bridge.**  Whatever a run has for a command, and whatever
error is reported: if the reply has a frame, the client accepts its envelope, the bridge reads it as
one value with the shape of the tool, hands that value on under every identity, and the line with it
is within its bound for every call with a valid identity. -/
theorem daemon_replies_pass (C : Crypto) (reader : Reader) (hreader : ShortNumbers reader)
    (reply : Bytes) (kind : ResponseClass) (tool : String)
    (h : (∃ (e : Execution C) (s : ℕ) (configuration : ServiceConfiguration)
        (approvals : List SelectableApproval) (observation : Text → ExecutionObservation)
        (command : Command), validateConfiguration C configuration = .ok approvals ∧
          Performs e s reader configuration.authorizationTrust approvals observation command
            (reply, kind) ∧ tool = command.tool) ∨
      ∃ error, reply = serviceError error)
    (hallowed : responseLengthAllowed reply.length kind = true) :
    (Transport.validateResponseEnvelope reader reply).isSome = true ∧
      ∃ value, unique reader reply = some value ∧ responseShape C (utf8 tool) value = true ∧
        (∀ id operationId status, answered C reader id operationId (utf8 tool) (.ok (reply, status)) =
          toolResult id operationId value
            ((value.get? (utf8 "status")).bind decodeString = some (utf8 "ERROR"))) ∧
        ∀ line request id, unique reader line = some request → idOf request = some id →
          validId id = true → ∀ params name asked, decodeCall params = some (name, asked) →
            ∀ failed, (lineOf (toolResult id (requestedId asked) value failed)).length ≤
              outputMax := by
  obtain ⟨value, haccepts⟩ : ∃ value, Accepts C reader tool reply value := by
    rcases h with ⟨e, s, configuration, approvals, observation, command, haccepted, hperforms, rfl⟩ |
      ⟨error, rfl⟩
    · exact accepted_of_performs haccepted hperforms hallowed
    · exact serviceError_accepted error tool
  refine ⟨haccepts.envelope, value, haccepts.unique, haccepts.shape, fun id operationId status =>
    answered_of_accepts rfl haccepts id operationId status, ?_⟩
  intro line request id hline hid hvalid params name asked hcall failed
  exact length_lineOf_reply hreader haccepts hallowed hline hid hvalid hcall failed

/-- The reader of compact texts whose texts and numbers are plain. -/
def plain : Reader where
  parse input := (compact.parse input).filter (readable 127)
  parse_print d h := by rw [compact.parse_print d h, Option.filter_some_pos h]

theorem shortNumbers_plain : ShortNumbers plain := by
  intro line value token hvalue hid
  obtain ⟨document, hparse, hvalue⟩ := Option.bind_eq_some_iff.mp hvalue
  obtain ⟨-, hreadable⟩ := Option.filter_eq_some_iff.mp hparse
  split at hvalue
  · rename_i hdistinct
    obtain rfl := Option.some.inj hvalue
    have hplain : document.toValue.readable 127 = true :=
      readable_toValue document 127 hdistinct hreadable
    generalize document.toValue = value at hid hplain
    cases value with
    | object members =>
      obtain ⟨front, back, rfl, -⟩ := List.lookup_eq_some_iff.mp hid
      have hmember := (readable_object.mp hplain) _ (List.mem_append_right front List.mem_cons_self)
      have hnatural : isNatural token = true := hmember.2
      simp only [isNatural, Bool.and_eq_true, decide_eq_true_eq] at hnatural
      omega
    | _ => cases hid
  · cases hvalue

/-- The reply to a submission while another one is executed passes. -/
theorem busy_reply_passes : ∃ value,
    unique plain (renderSubmission (.decided .busy)) = some value ∧
      responseShape Crypto.bare (utf8 "kapsel.submit") value = true := by
  obtain ⟨-, value, hunique, hshape, -⟩ := daemon_replies_pass Crypto.bare plain shortNumbers_plain
    (renderSubmission (.decided .busy)) .ordinary "kapsel.submit"
    (.inl ⟨.empty, 0, _, [], fun _ => .unknown, .submit (utf8 "op-1"), accepted_without_approvals,
      .submitted _ _, rfl⟩) (by decide)
  exact ⟨value, hunique, hshape⟩

/-! ## A session over the socket -/

/-- A connection that reaches a daemon, or comes to nothing. -/
def Served (C : Crypto) (reader : Reader) (peer : Bytes → Transport.Meeting) : Prop :=
  (∃ perform, ReachesDaemon C reader peer perform) ∨
    ∀ request found, Transport.exchange reader peer request ≠ .ok found

theorem accepted_overSocket {reader : Reader} {peers : ℕ → Bytes → Transport.Meeting}
    (h : ∀ n, Served C reader (peers n)) : Accepted C reader (overSocket reader peers) := by
  intro n request command reply status hsends hexchange
  rcases h n with ⟨perform, hreaches⟩ | hfails
  · cases hallowed : responseLengthAllowed (perform command).1.length (perform command).2 with
    | true =>
      obtain ⟨status', value, hok, haccepts⟩ := exchange_of_reaches hreaches hsends hallowed
      obtain ⟨rfl, -⟩ := Prod.mk.inj (Except.ok.inj (hexchange.symm.trans hok))
      exact ⟨value, haccepts⟩
    | false =>
      have hdropped := exchange_of_reaches_dropped hreaches hsends hallowed
      cases hexchange.symm.trans hdropped
  · exact absurd hexchange (hfails request (reply, status))

/-- **A session follows the protocol**, whatever its input is and whatever its streams do.  The input
is lines and a tail that is no line; the session handles the lines one after another and stops at
the tail, with an error unless there is none, or before it, where the output fails.  Every line is
answered as `Answers` says, and what is written fits its bound.  The service is reached by a tool
call behind both steps of the handshake, which is answered with what `call` makes of the reply, and
by nothing else. -/
theorem session_follows_protocol (reader : Reader) (hreader : ShortNumbers reader)
    (peers : ℕ → Bytes → Transport.Meeting) (hpeers : ∀ n, Served C reader (peers n))
    (streams : Streams) (n : ℕ) (input : Bytes) : ∃ lines tail, input = joined 10 lines ++ tail ∧
      (∀ line ∈ lines, 10 ∉ line ∧ line.length < inputMax) ∧ Stuck 10 inputMax tail ∧
      Ends C reader (overSocket reader peers) streams ⟨.awaitingInitialize, n⟩ lines tail
        (session C reader (overSocket reader peers) streams ⟨.awaitingInitialize, n⟩ input) ∧
      (∀ line ∈ transcript C reader (overSocket reader peers) ⟨.awaitingInitialize, n⟩ lines,
        line.length ≤ outputMax) ∧
      ∀ before line after, lines = before ++ line :: after →
        let c := conversation C reader (overSocket reader peers) ⟨.awaitingInitialize, n⟩ before
        let handled := handle C reader (overSocket reader peers) (stripped line) c
        Answers reader (stripped line) handled.1 ∧
        ((Shaken reader before ∧ ∃ id params tool request,
            Calls reader (stripped line) id params tool request ∧
            handled.1 = some (call C reader (overSocket reader peers) c.service id params).1 ∧
            handled.2.service = c.service + 1) ∨
          (¬(Shaken reader before ∧ ∃ id params tool request,
            Calls reader (stripped line) id params tool request) ∧
            handled.2.service = c.service)) := by
  have hservice := accepted_overSocket hpeers
  obtain ⟨lines, tail, rfl, hlines, htail⟩ := exists_lines 10 inputMax input
  refine ⟨lines, tail, rfl, hlines, htail, ends_session hreader hservice streams _ hlines htail,
    length_transcript hreader hservice _ lines, ?_⟩
  intro before line after _ c handled
  have hready : c.phase = .ready ↔ Shaken reader before := (phase_conversation n before).2
  refine ⟨answers_handle (stripped line) c, ?_⟩
  rw [← hready]
  rcases service_handle (stripped line) c with
    ⟨hphase, id, params, tool, request, hcall, hhandle⟩ | ⟨hnone, hsame⟩
  · have hdecoded : decodeCall params = some (tool, request) := by
      obtain ⟨value, message, -, -, -, -, -, -, -, hdecoded⟩ := hcall
      exact hdecoded
    have hcounted : (call C reader (overSocket reader peers) c.service id params).2 =
        c.service + 1 := by
      rw [call, hdecoded]
      rfl
    refine .inl ⟨hphase, id, params, tool, request, hcall, congrArg Prod.fst hhandle, ?_⟩
    rw [← hcounted]
    exact congrArg (fun found => found.2.service) hhandle
  · exact .inr ⟨hnone, hsame⟩

/-- A submission behind the handshake, and the beginning of another line. -/
def busySession : Bytes :=
  (json [("jsonrpc", word "2.0"), ("id", word "a"), ("method", word "initialize"),
    ("params", json [("protocolVersion", word protocol), ("capabilities", json []),
      ("clientInfo", json [("name", word "client"), ("version", word "1")])])]).print ++ 10 ::
  ((json [("jsonrpc", word "2.0"), ("method", word "notifications/initialized")]).print ++ 10 ::
  ((json [("jsonrpc", word "2.0"), ("id", .number (utf8 "7")), ("method", word "tools/call"),
    ("params", paramsOf "kapsel.submit" [("operation_id", word "op-1")])]).print ++ 10 ::
  utf8 "\x7b"))

/-- This session, with a daemon that is busy and an output that fails at the second response. -/
theorem busy_session : ∃ lines tail, busySession = joined 10 lines ++ tail ∧
    Ends Crypto.bare plain (overSocket plain fun _ =>
        daemonPeer 5 (dispatchAdmitted plain busyPerform)) ⟨some 1, false⟩ ⟨.awaitingInitialize, 0⟩
      lines tail (session Crypto.bare plain (overSocket plain fun _ =>
        daemonPeer 5 (dispatchAdmitted plain busyPerform)) ⟨some 1, false⟩ ⟨.awaitingInitialize, 0⟩
        busySession) := by
  obtain ⟨lines, tail, hinput, -, -, hsession, -⟩ := session_follows_protocol plain
    shortNumbers_plain (fun _ => daemonPeer 5 (dispatchAdmitted plain busyPerform))
    (fun _ => .inl ⟨busyPerform, reaches_busyPerform plain⟩) ⟨some 1, false⟩ 0 busySession
  exact ⟨lines, tail, hinput, hsession⟩

end Bridge

end Daemon
end Kapsel
