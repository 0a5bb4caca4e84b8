import Kapsel.Daemon.Requests
import Kapsel.Daemon.Transport

/-!
# A tool call through the socket

`call` of `kapsel-service-mcp.rs` turns the parameters of a tool call into a request, exchanges it
with the service, and binds the facts that come back to the identity that was asked for.

* `length_toolResult_le`: how long the line of a tool result is.
* `tool_call_end_to_end`: with the daemon at the other end of the socket, the tool result holds what
  the daemon replied, unchanged; a reply without a frame is an uncertain exchange; and the bridge
  never finds the daemon's reply invalid.
-/

namespace Kapsel

open Grammar Fallible Authority Interaction Interaction.Program Streaming

namespace Daemon

open Gateway Gateway.Journal Application Json Json.Document

variable {C : Crypto}

namespace Bridge

/-- `OUTPUT_MAX`. -/
def outputMax : ℕ := 96 * 1024

/-- `error`. -/
def error (id : Document) (code message : String) : Document :=
  json [("jsonrpc", word "2.0"), ("id", id),
    ("error", json [("code", .number (utf8 code)), ("message", word message)])]

/-- `result`. -/
def result (id value : Document) : Document :=
  json [("jsonrpc", word "2.0"), ("id", id), ("result", value)]

/-- The text of `tool_result`: the facts of the service, bound to the identity. -/
def toolText (operationId service : Document) : Text :=
  (json [("operation_id", operationId), ("service", service)]).print

/-- `tool_result`. -/
def toolResult (id operationId service : Document) (failed : Bool) : Document :=
  result id (json [("content", .array [json [("type", word "text"),
    ("text", .string (toolText operationId service))]]), ("isError", .bool failed)])

/-- A tool result without facts of the service. -/
def serviceFailure (id operationId : Document) (kind : String) : Document :=
  toolResult id operationId (json [("status", word "ERROR"), ("error_class", word kind)]) true

/-- The identity that a request names, if it names one. -/
def requestedId (request : Document) : Document := (request.get? (utf8 "operation_id")).getD .null

/-- What comes back of an exchange, as a tool result. -/
def answered (C : Crypto) (reader : Reader) (id operationId : Document) (name : Text) :
    Except Transport.Error (Bytes × Text) → Document
  | .error .response => serviceFailure id operationId "response_invalid"
  | .error _ => serviceFailure id operationId "service_exchange_uncertain"
  | .ok (response, _) =>
      match unique reader response with
      | none => serviceFailure id operationId "response_invalid"
      | some value =>
          if !responseShape C name value then serviceFailure id operationId "response_invalid"
          else toolResult id operationId value
            ((value.get? (utf8 "status")).bind decodeString = some (utf8 "ERROR"))

/-- `call`, with the service and its state. -/
def call {σ : Type} (C : Crypto) (reader : Reader)
    (exchange : σ → Bytes → Except Transport.Error (Bytes × Text) × σ) (service : σ)
    (id : Document) (params : Option Document) : Document × σ :=
  match decodeCall params with
  | none => (error id "-32602" "Invalid params", service)
  | some (name, request) =>
      let (response, service) := exchange service request.print
      (answered C reader id (requestedId request) name response, service)

/-! ## The line of a result -/

theorem length_result (id value : Document) :
    (result id value).print.length = id.print.length + value.print.length + 33 := by
  have hprint : (result id value).print = utf8 "\x7b\"id\":" ++ id.print ++
      (utf8 ",\"jsonrpc\":\"2.0\",\"result\":" ++ value.print ++ utf8 "\x7d") := by
    show (Document.object (named [("id", id), ("jsonrpc", word "2.0"), ("result", value)])).print = _
    simp only [named, List.map_cons, List.map_nil, print, printMembers, printMoreMembers,
      List.append_nil, List.append_assoc, List.cons_append]
    rfl
  have hfirst : (utf8 "\x7b\"id\":").length = 6 := by decide
  have hmiddle : (utf8 ",\"jsonrpc\":\"2.0\",\"result\":").length = 26 := by decide
  have hlast : (utf8 "\x7d").length = 1 := by decide
  rw [hprint, List.length_append, List.length_append, List.length_append, List.length_append, hfirst,
    hmiddle, hlast]
  omega

theorem length_toolText (operationId service : Document) :
    (toolText operationId service).length = operationId.print.length + service.print.length + 28 := by
  have hprint : toolText operationId service = utf8 "\x7b\"operation_id\":" ++ operationId.print ++
      (utf8 ",\"service\":" ++ service.print ++ utf8 "\x7d") := by
    show (Document.object (named [("operation_id", operationId), ("service", service)])).print = _
    simp only [named, List.map_cons, List.map_nil, print, printMembers, printMoreMembers,
      List.append_nil, List.append_assoc, List.cons_append]
    rfl
  have hfirst : (utf8 "\x7b\"operation_id\":").length = 16 := by decide
  have hmiddle : (utf8 ",\"service\":").length = 11 := by decide
  have hlast : (utf8 "\x7d").length = 1 := by decide
  rw [hprint, List.length_append, List.length_append, List.length_append, List.length_append, hfirst,
    hmiddle, hlast]
  omega

theorem length_toolResult (id operationId service : Document) (failed : Bool) :
    (toolResult id operationId service failed).print.length ≤
      id.print.length + (quote (toolText operationId service)).length + 86 := by
  have hprint : (json [("content", .array [json [("type", word "text"),
      ("text", .string (toolText operationId service))]]), ("isError", .bool failed)]).print =
      utf8 "\x7b\"content\":[\x7b\"text\":" ++ quote (toolText operationId service) ++
        (utf8 ",\"type\":\"text\"\x7d],\"isError\":" ++ (Document.bool failed).print ++
          utf8 "\x7d") := by
    show (Document.object (named [("content", .array [.object (named
      [("text", .string (toolText operationId service)), ("type", word "text")])]),
      ("isError", .bool failed)])).print = _
    simp only [named, List.map_cons, List.map_nil, print, printItems, printMoreItems, printMembers,
      printMoreMembers, List.append_nil, List.append_assoc, List.cons_append]
    rfl
  have hfirst : (utf8 "\x7b\"content\":[\x7b\"text\":").length = 20 := by decide
  have hmiddle : (utf8 ",\"type\":\"text\"\x7d],\"isError\":").length = 27 := by decide
  have hfailed : (Document.bool failed).print.length ≤ 5 := by cases failed <;> decide
  have hlast : (utf8 "\x7d").length = 1 := by decide
  have hvalue := congrArg List.length hprint
  rw [List.length_append, List.length_append, List.length_append, List.length_append, hfirst,
    hmiddle, hlast] at hvalue
  rw [toolResult, length_result]
  omega

/-- **A tool result fits a line** if its identity is short. -/
theorem length_toolResult_le {id operationId service : Document} {failed : Bool}
    (hid : id.print.length ≤ 1024) (hoperation : operationId.readable 127 = true)
    (hoperationId : operationId.print.length ≤ 130) (hservice : service.readable 127 = true)
    (hlength : service.print.length ≤ 40 * 1024) :
    (toolResult id operationId service failed).print.length < outputMax := by
  have hreadable : (json [("operation_id", operationId), ("service", service)]).readable 128 =
      true := by
    refine readable_object.mpr fun member hmember => ?_
    have hmembers : member = (utf8 "operation_id", operationId) ∨
        member = (utf8 "service", service) := by
      have hmem : member ∈ named [("operation_id", operationId), ("service", service)] := hmember
      simpa [named] using hmem
    rcases hmembers with rfl | rfl
    · exact ⟨rfl, hoperation⟩
    · exact ⟨rfl, hservice⟩
  have htext : textEscapes (toolText operationId service) ≤ (toolText operationId service).length :=
    textEscapes_print_le hreadable
  have hquote := length_quote (toolText operationId service)
  have hlengths := length_toolText operationId service
  have hline := length_toolResult id operationId service failed
  unfold outputMax
  omega

end Bridge

/-- What is accepted is handed on. -/
theorem Bridge.answered_of_accepts {reader : Reader} {name : Text} {tool : String}
    (htool : name = utf8 tool) {reply : Bytes} {value : Document}
    (h : Bridge.Accepts C reader tool reply value) (id operationId : Document) (status : Text) :
    Bridge.answered C reader id operationId name (.ok (reply, status)) =
      Bridge.toolResult id operationId value
        ((value.get? (utf8 "status")).bind decodeString = some (utf8 "ERROR")) := by
  subst htool
  simp only [Bridge.answered, h.unique, h.shape, Bool.not_true, Bool.false_eq_true, if_false]

/-! ## The daemon -/

/-- The tool that a command belongs to. -/
def Command.tool : Command → String
  | .read (.list _) => "kapsel.list_approved_actions"
  | .read (.history _) => "kapsel.list_operation_history"
  | .read (.status _) => "kapsel.get_status"
  | .read (.receipt _) => "kapsel.get_receipt"
  | .submit _ => "kapsel.submit"

theorem tool_of_asks {tool : Text} {arguments : Document} {command : Command}
    (h : Bridge.Asks tool arguments command) : tool = utf8 command.tool := by
  cases h <;> rfl

/-- What is found for a request belongs to the tool of the request. -/
theorem tool_of_returns {trust : List AuthorizationTrust} {approvals : List SelectableApproval}
    {observation : Text → ExecutionObservation} {request : ReadRequest}
    {own : List (Exchange (Call C) Answer)} {found : Found}
    (h : Returns (find trust approvals observation request) own found) :
    found.tool = (Command.read request).tool := by
  cases request with
  | list after =>
    cases h
    rfl
  | status id =>
    obtain ⟨_, _, result, -, -, hend⟩ := returns_bind.mp h
    cases hend
    rfl
  | receipt id =>
    obtain ⟨_, _, result, -, -, hend⟩ := returns_bind.mp h
    cases hend
    rfl
  | history after =>
    obtain ⟨_, _, result, -, -, hend⟩ := returns_bind.mp h
    cases hend
    rfl

/-- What the daemon has for the command of a connection: the reply of the application in some run,
an operation failure if the read is lost, nothing if the read is late, or the admission of a
submission. -/
inductive Performs (e : Execution C) (s : ℕ) (reader : Reader) (trust : List AuthorizationTrust)
    (approvals : List SelectableApproval) (observation : Text → ExecutionObservation) :
    Command → Bytes × ResponseClass → Prop
  | answered (request : ReadRequest) (reply : Bytes) :
      Returns (readObserved (C := C) reader trust approvals observation request)
        (Interaction.history s e.moments) reply →
      Performs e s reader trust approvals observation (.read request) (reply, request.responseClass)
  | lost (request : ReadRequest) : Performs e s reader trust approvals observation (.read request)
      (operationFailure, .ordinary)
  | late (request : ReadRequest) :
      Performs e s reader trust approvals observation (.read request) ([], .ordinary)
  | submitted (id : Text) (admission : SubmissionAdmission) :
      Performs e s reader trust approvals observation (.submit id)
        (renderSubmission admission, .ordinary)

section
variable {e : Execution C} {s : ℕ} {reader : Reader} {configuration : ServiceConfiguration}
  {approvals : List SelectableApproval} {observation : Text → ExecutionObservation}
  {command : Command} {reply : Bytes} {kind : ResponseClass}

/-- An error is accepted for every tool. -/
theorem serviceError_accepted (error : ServiceError) (tool : String) :
    ∃ value, Bridge.Accepts C reader tool (serviceError error) value := by
  rw [serviceError_eq]
  have hreadable : (errorDocument error).readable 127 = true := by cases error <;> rfl
  exact ⟨_, accepts_of_document (s := "ERROR") hreadable rfl (by cases error <;> decide) (by decide)
    rfl (responseShape_error tool error)⟩

/-- **Every reply of the daemon that has a frame is accepted** for the tool of the command. -/
theorem accepted_of_performs (haccepted : validateConfiguration C configuration = .ok approvals)
    (h : Performs e s reader configuration.authorizationTrust approvals observation command
      (reply, kind)) (hallowed : responseLengthAllowed reply.length kind = true) :
    ∃ value, Bridge.Accepts C reader command.tool reply value := by
  cases h with
  | answered request reply hreturns =>
    rw [readObserved_eq] at hreturns
    obtain ⟨first, second, found, hown, hfind, hreply⟩ := returns_bind.mp hreturns
    cases hreply
    rw [List.nil_append] at hown
    have hclass := responseClass_of_returns hfind
    have htool : found.tool = (Command.read request).tool := tool_of_returns hfind
    rw [← hown] at hfind
    have hpresentable := presentable_of_returns e haccepted hfind
    rw [← hclass] at hallowed
    rw [← htool]
    exact ⟨_, found.accepted reader hpresentable hallowed⟩
  | lost request => exact serviceError_accepted .operationFailure _
  | late request => cases hallowed
  | submitted id admission => exact ⟨_, submission_accepted reader admission⟩

end

/-! ## Through the socket -/

/-- The service of the bridge: each exchange is a connection of its own. -/
def overSocket (reader : Reader) (peers : ℕ → Bytes → Transport.Meeting) (n : ℕ) (request : Bytes) :
    Except Transport.Error (Bytes × Text) × ℕ := (Transport.exchange reader (peers n) request, n + 1)

/-- A daemon is at the other end of a connection, and this is what it has for each command. -/
structure ReachesDaemon (C : Crypto) (reader : Reader) (peer : Bytes → Transport.Meeting)
    (perform : Command → Bytes × ResponseClass) : Prop where
  connects : ∃ gid, Connects peer gid gid (dispatchAdmitted reader perform)
  performs : ∃ (e : Execution C) (s : ℕ) (configuration : ServiceConfiguration)
    (approvals : List SelectableApproval) (observation : Text → ExecutionObservation),
    validateConfiguration C configuration = .ok approvals ∧ ∀ command,
      Performs e s reader configuration.authorizationTrust approvals observation command
        (perform command)

section
variable {reader : Reader} {peer : Bytes → Transport.Meeting}
  {perform : Command → Bytes × ResponseClass} {command : Command} {request : Bytes}

/-- **What the transport makes of the daemon's reply**, and what the bridge finds in it. -/
theorem exchange_of_reaches (h : ReachesDaemon C reader peer perform)
    (hsends : Sends reader request command)
    (hallowed : responseLengthAllowed (perform command).1.length (perform command).2 = true) :
    ∃ status value, Transport.exchange reader peer request = .ok ((perform command).1, status) ∧
      Bridge.Accepts C reader command.tool (perform command).1 value := by
  obtain ⟨gid, hconnects⟩ := h.connects
  obtain ⟨e, s, configuration, approvals, observation, haccepted, hperforms⟩ := h.performs
  obtain ⟨value, haccepts⟩ := accepted_of_performs haccepted (hperforms command) hallowed
  obtain ⟨status, henvelope⟩ := Option.isSome_iff_exists.mp haccepts.envelope
  have hdispatch : dispatchAdmitted reader perform request = perform command := by
    rw [dispatchAdmitted, hsends.decoded]
  exact ⟨status, value, exchange_of_connects hconnects hsends.nonempty hsends.short hdispatch
    hallowed henvelope, haccepts⟩

theorem exchange_of_reaches_dropped (h : ReachesDaemon C reader peer perform)
    (hsends : Sends reader request command)
    (hdropped : responseLengthAllowed (perform command).1.length (perform command).2 = false) :
    Transport.exchange reader peer request = .error .exchange := by
  obtain ⟨gid, hconnects⟩ := h.connects
  have hdispatch : dispatchAdmitted reader perform request = perform command := by
    rw [dispatchAdmitted, hsends.decoded]
  exact exchange_of_dropped hconnects hsends.nonempty hsends.short hdispatch hdropped

/-- The identity that a command is about is short. -/
theorem length_operationId (h : Sends reader request command) :
    (nullable Document.string command.operationId).readable 127 = true ∧
      (nullable Document.string command.operationId).print.length ≤ 130 := by
  have hvalid := valid_of_decode h.decoded
  have hid : ∀ id, identityIsValid id = true → (Document.string id).readable 127 = true ∧
      (Document.string id).print.length ≤ 130 := by
    intro id hid
    have hmeasured : Measured 127 (.string id) 130 [] := measured_identity hid
    exact ⟨hmeasured.readable, hmeasured.length_print_le⟩
  have hnull : Document.null.readable 127 = true ∧ Document.null.print.length ≤ 130 :=
    ⟨rfl, by decide⟩
  match command, hvalid with
  | .read (.list _), _ => exact hnull
  | .read (.history _), _ => exact hnull
  | .read (.status id), hvalid => exact hid id hvalid
  | .read (.receipt id), hvalid => exact hid id hvalid
  | .submit id, hvalid => exact hid id hvalid

theorem requestedId_eq {request : Document}
    (h : request.get? (utf8 "operation_id") = command.operationId.map .string) :
    Bridge.requestedId request = nullable Document.string command.operationId := by
  rw [Bridge.requestedId, h]
  cases command.operationId <;> rfl

end

/-- The identity that a request of the bridge names is short. -/
theorem length_requestedId {params : Option Document} {tool : Text} {request : Document}
    (h : Bridge.decodeCall params = some (tool, request)) :
    (Bridge.requestedId request).readable 127 = true ∧
      (Bridge.requestedId request).print.length ≤ 130 := by
  obtain ⟨-, arguments, command, -, -, -, hsends, hoperation⟩ :=
    @sends_of_decodeCall compact _ _ _ h
  rw [requestedId_eq hoperation]
  exact length_operationId hsends

/-- **A tool call reaches the daemon and comes back unchanged.**  Whatever a run of the gateway has
for the command that the tool call asks for: if the reply has a frame, the tool result holds the
value of the reply, bound to the identity that the command is about, and it is marked as failed
exactly if its status is an error; if it has none, the exchange is uncertain.  The bridge never finds
the reply invalid, and the result fits a line. -/
theorem tool_call_end_to_end (C : Crypto) (reader : Reader)
    (peers : ℕ → Bytes → Transport.Meeting) (n : ℕ) (perform : Command → Bytes × ResponseClass)
    (h : ReachesDaemon C reader (peers n) perform) (id : Document) (hid : id.print.length ≤ 1024)
    (params : Option Document) (tool : Text) (request : Document)
    (hcall : Bridge.decodeCall params = some (tool, request)) :
    ∃ arguments command, params.bind Bridge.ToolCall.ofValue = some ⟨tool, arguments⟩ ∧
      Bridge.Asks tool arguments command ∧
      Bridge.requestedId request = nullable Document.string command.operationId ∧
      ∃ line, Bridge.call C reader (overSocket reader peers) n id params = (line, n + 1) ∧
        line.print.length < Bridge.outputMax ∧
        (responseLengthAllowed (perform command).1.length (perform command).2 = true →
          ∃ value, Bridge.unique reader (perform command).1 = some value ∧
            line = Bridge.toolResult id (Bridge.requestedId request) value
              ((value.get? (utf8 "status")).bind decodeString = some (utf8 "ERROR"))) ∧
        (responseLengthAllowed (perform command).1.length (perform command).2 = false →
          line = Bridge.serviceFailure id (Bridge.requestedId request)
            "service_exchange_uncertain") := by
  obtain ⟨value, arguments, command, rfl, htool, hasks, hsends, hoperation⟩ :=
    @sends_of_decodeCall reader _ _ _ hcall
  have hrequested := requestedId_eq hoperation
  obtain ⟨hreadable, hlength⟩ := length_requestedId hcall
  have hcalled : Bridge.call C reader (overSocket reader peers) n id (some value) =
      (Bridge.answered C reader id (Bridge.requestedId request) tool
        (Transport.exchange reader (peers n) request.print), n + 1) := by
    rw [Bridge.call, hcall]
    rfl
  refine ⟨arguments, command, htool, hasks, hrequested, _, hcalled, ?_⟩
  cases hallowed : responseLengthAllowed (perform command).1.length (perform command).2 with
  | true =>
    obtain ⟨status, value, hexchange, haccepts⟩ := exchange_of_reaches h hsends hallowed
    have hanswered := Bridge.answered_of_accepts (tool_of_asks hasks) haccepts id
      (Bridge.requestedId request) status
    have hvalue : value.print.length ≤ 40 * 1024 := by
      rw [haccepts.length_eq]
      exact length_le_of_allowed hallowed
    rw [hexchange, hanswered]
    refine ⟨Bridge.length_toolResult_le hid hreadable hlength haccepts.readable hvalue,
      fun _ => ⟨value, haccepts.unique, rfl⟩, ?_⟩
    rintro ⟨⟩
  | false =>
    rw [exchange_of_reaches_dropped h hsends hallowed]
    refine ⟨Bridge.length_toolResult_le hid hreadable hlength rfl (by decide), ?_, fun _ => rfl⟩
    rintro ⟨⟩

/-- The daemon at the other end, when everything arrives in one piece. -/
def daemonPeer (gid : ℕ) (dispatch : Bytes → Bytes × ResponseClass) (sent : Bytes) :
    Transport.Meeting :=
  .replies (.whole
    ((serveAdmittedConnection (some gid) gid (.whole sent) dispatch).getD []))

theorem connects_daemonPeer (gid : ℕ) (dispatch : Bytes → Bytes × ResponseClass) :
    Connects (daemonPeer gid dispatch) gid gid dispatch :=
  ⟨fun sent => ⟨.whole sent, _, rfl, Stream.bytes_whole sent, rfl, rfl, Stream.bytes_whole _⟩⟩

/-- A daemon without appointed actions: it lists them, its other reads are lost, and its execution is
taken. -/
def busyPerform : Command → Bytes × ResponseClass
  | .read (.list after) =>
      ((Found.catalog (listCatalog [] after)).render compact fun _ => .unknown, .ordinary)
  | .read _ => (operationFailure, .ordinary)
  | .submit _ => (renderSubmission (.decided .busy), .ordinary)

theorem reaches_busyPerform (reader : Reader) : ReachesDaemon Crypto.bare reader
    (daemonPeer 5 (dispatchAdmitted reader busyPerform)) busyPerform := by
  refine ⟨⟨5, connects_daemonPeer _ _⟩, .empty, 0, _, _, fun _ => .unknown,
    accepted_without_approvals, ?_⟩
  intro command
  cases command with
  | submit id => exact .submitted id _
  | read request =>
    cases request with
    | status id => exact .lost (.status id)
    | receipt id => exact .lost (.receipt id)
    | history after => exact .lost (.history after)
    | list after =>
      have hrender : busyPerform (.read (.list after)) =
          ((Found.catalog (listCatalog [] after)).render reader fun _ => .unknown, .ordinary) := by
        rw [busyPerform]
        cases listCatalog [] after <;> rfl
      rw [hrender]
      exact .answered (.list after) _ (returns_list Crypto.bare reader _ [] _ after)

/-- A list of its actions, asked for with the identity 7, and a submission to it. -/
theorem busy_daemon_reported :
    (∃ line value,
      Bridge.call Crypto.bare compact (overSocket compact fun _ =>
          daemonPeer 5 (dispatchAdmitted compact busyPerform)) 0 (.number (utf8 "7"))
        (some (Bridge.paramsOf "kapsel.list_approved_actions" [("after", .null)])) = (line, 1) ∧
      Bridge.unique compact (renderCatalog [] none) = some value ∧
      line = Bridge.toolResult (.number (utf8 "7")) .null value
        ((value.get? (utf8 "status")).bind decodeString = some (utf8 "ERROR"))) ∧
    ∃ line,
      Bridge.call Crypto.bare compact (overSocket compact fun _ =>
          daemonPeer 5 (dispatchAdmitted compact busyPerform)) 0 (.number (utf8 "7"))
        (some (Bridge.paramsOf "kapsel.submit" [("operation_id", word "op-1")])) = (line, 1) ∧
      line = Bridge.toolResult (.number (utf8 "7")) (word "op-1")
        (submissionDocument (.decided .busy)).toValue false := by
  have hreaches := reaches_busyPerform compact
  constructor
  · obtain ⟨arguments, command, htool, hasks, -, line, hcall, -, hallowed, -⟩ :=
      tool_call_end_to_end Crypto.bare compact
        (fun _ => daemonPeer 5 (dispatchAdmitted compact busyPerform)) 0 busyPerform hreaches
        (.number (utf8 "7")) (by decide)
        (some (Bridge.paramsOf "kapsel.list_approved_actions" [("after", .null)])) _ _ rfl
    cases hasks with
    | list =>
      obtain ⟨value, hvalue, hline⟩ := hallowed rfl
      exact ⟨line, value, hcall, hvalue, hline⟩
    | listAfter id => cases htool
  · obtain ⟨arguments, command, -, hasks, -, line, hcall, -, hallowed, -⟩ :=
      tool_call_end_to_end Crypto.bare compact
        (fun _ => daemonPeer 5 (dispatchAdmitted compact busyPerform)) 0 busyPerform hreaches
        (.number (utf8 "7")) (by decide)
        (some (Bridge.paramsOf "kapsel.submit" [("operation_id", word "op-1")])) _ _ rfl
    refine ⟨line, hcall, ?_⟩
    have htool := tool_of_asks hasks
    cases command with
    | read request =>
      have hother : ∀ tool ∈ ["kapsel.list_approved_actions", "kapsel.list_operation_history",
          "kapsel.get_status", "kapsel.get_receipt"], utf8 "kapsel.submit" ≠ utf8 tool := by decide
      cases request with
      | list after => exact absurd htool (hother _ List.mem_cons_self)
      | history after => exact absurd htool (hother _ (.tail _ (.head _)))
      | status id => exact absurd htool (hother _ (.tail _ (.tail _ (.head _))))
      | receipt id => exact absurd htool (hother _ (.tail _ (.tail _ (.tail _ (.head _)))))
    | submit id =>
      obtain ⟨value, hvalue, hline⟩ := hallowed rfl
      have haccepts : Bridge.Accepts Crypto.bare compact "kapsel.submit" _ _ :=
        submission_accepted compact (.decided .busy)
      obtain rfl := Option.some.inj (haccepts.unique.symm.trans hvalue)
      exact hline

end Daemon
end Kapsel
