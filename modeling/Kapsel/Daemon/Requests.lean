import Kapsel.Daemon.Protocol
import Kapsel.Json.Measure

/-!
# The requests on the wire

`decode` of `server/protocol.rs` reads a request, and two programs write them: the command line
client from its arguments and the bridge from the parameters of a tool call.  The three agree on the
names of the five requests, on the shape of each, and on what an absent cursor looks like.

`Request.ofDocument` is what `serde` derives for the tagged enumeration: every field once, and no
other one.  A version is the number 1.

* `sends_cursor` and `sends_id`: the two documents that are ever written, and what is decoded.
* `request_wire_agreement`: what a client accepts is decoded as what it was asked for, and what is
  decoded can be asked for through either client.
-/

namespace Kapsel

open Grammar

namespace Daemon

open Json

/-! ## What is decoded -/

/-- `Command`. -/
inductive Command where
  | read (request : ReadRequest)
  | submit (id : Text)

/-- The identity that a command is about; a listing is about none. -/
def Command.operationId : Command → Option Text
  | .read (.list _) => none
  | .read (.history _) => none
  | .read (.status id) => some id
  | .read (.receipt id) => some id
  | .submit id => some id

/-- `REQUEST_BYTES_MAX`. -/
def requestBytesMax : ℕ := 16 * 1024

/-- `u8::is_ascii_whitespace`. -/
def isAsciiWhitespace (b : UInt8) : Bool := b = 32 || b = 9 || b = 10 || b = 12 || b = 13

/-- The number of a token of digits. -/
def naturalValue (token : List UInt8) : ℕ :=
  token.foldl (fun value b => 10 * value + (b.toNat - 48)) 0

/-- A `u8`. -/
def decodeU8 : Document → Option UInt8
  | .number token =>
      if isNatural token && naturalValue token ≤ 255 then some (UInt8.ofNat (naturalValue token))
      else none
  | _ => none

/-- A `String`. -/
def decodeString : Document → Option Text
  | .string text => some text
  | _ => none

/-- `Request`, the enumeration that is tagged with the name of the request. -/
inductive Request where
  | list (version : UInt8) (after : Document)
  | history (version : UInt8) (after : Document)
  | status (version : UInt8) (operationId : Text)
  | receipt (version : UInt8) (operationId : Text)
  | submit (version : UInt8) (operationId : Text)

/-- Two fields, each once, and no other one. -/
def twoFields (first second : Text) (members : Members) : Option (Document × Document) :=
  if (names members).Nodup ∧ ∀ name ∈ names members, name = first ∨ name = second then do
    let value ← members.lookup first
    let value' ← members.lookup second
    return (value, value')
  else none

/-- A request with a version and a cursor. -/
def cursorFields (members : Members) : Option (UInt8 × Document) := do
  let (version, after) ← twoFields (utf8 "version") (utf8 "after") members
  return (← decodeU8 version, after.toValue)

/-- A request with a version and an identity. -/
def idFields (members : Members) : Option (UInt8 × Text) := do
  let (version, operationId) ← twoFields (utf8 "version") (utf8 "operation_id") members
  return (← decodeU8 version, ← decodeString operationId)

/-- `Request` of an object. -/
def Request.ofDocument : Document → Option Request
  | .object members =>
      let content := members.filter (·.1 ≠ utf8 "request")
      match members.filter (·.1 = utf8 "request") with
      | [(_, .string tag)] =>
          if tag = utf8 "list_approved_actions" then
            (cursorFields content).map fun (version, after) => .list version after
          else if tag = utf8 "list_operation_history" then
            (cursorFields content).map fun (version, after) => .history version after
          else if tag = utf8 "get_set_deployment_image_status" then
            (idFields content).map fun (version, operationId) => .status version operationId
          else if tag = utf8 "get_set_deployment_image_receipt" then
            (idFields content).map fun (version, operationId) => .receipt version operationId
          else if tag = utf8 "submit_set_deployment_image" then
            (idFields content).map fun (version, operationId) => .submit version operationId
          else none
      | _ => none
  | _ => none

/-- The closure `cursor` of `decode`. -/
def cursor : Document → Option (Option Text)
  | .null => some none
  | .string id => if identityIsValid id then some (some id) else none
  | _ => none

/-- The `match` at the end of `decode`. -/
def Request.command : Request → Option Command
  | .list version after =>
      if version = 1 then (cursor after).map fun after => .read (.list after) else none
  | .history version after =>
      if version = 1 then (cursor after).map fun after => .read (.history after) else none
  | .status version id =>
      if version = 1 && identityIsValid id then some (.read (.status id)) else none
  | .receipt version id =>
      if version = 1 && identityIsValid id then some (.read (.receipt id)) else none
  | .submit version id => if version = 1 && identityIsValid id then some (.submit id) else none

/-- `decode`. -/
def decode (reader : Reader) (bytes : Bytes) : Option Command :=
  if bytes.isEmpty || requestBytesMax < bytes.length ||
      bytes.find? (fun b => !isAsciiWhitespace b) ≠ some (asciiByte '\x7b') then none
  else do (← Request.ofDocument (← reader.parse bytes)).command

/-! ## The command line client -/

/-- The document of a request with a cursor. -/
def cursorRequest (name : String) (after : Option Text) : Document :=
  json [("version", one), ("request", word name), ("after", nullable .string after)]

/-- The document of a request with an identity. -/
def idRequest (name : String) (id : Text) : Document :=
  json [("version", one), ("request", word name), ("operation_id", .string id)]

namespace Client

/-- `list` and `history`, with or without a cursor. -/
def listing (command : Text) (after : Option Text) : Option Document :=
  if after.any fun id => !identityIsValid id then none
  else some (cursorRequest (if command = utf8 "list" then "list_approved_actions"
    else "list_operation_history") after)

/-- `request`: the bytes to send, and where a receipt goes. -/
def request (arguments : List Text) : Option (Bytes × Option Text) :=
  match arguments with
  | [command] =>
      if command = utf8 "list" || command = utf8 "history" then
        (listing command none).map fun request => (request.print, none)
      else none
  | [command, id] =>
      if command = utf8 "list" || command = utf8 "history" then
        (listing command (some id)).map fun request => (request.print, none)
      else if command = utf8 "status" || command = utf8 "submit" then
        if identityIsValid id then
          some ((idRequest (if command = utf8 "status" then "get_set_deployment_image_status"
            else "submit_set_deployment_image") id).print, none)
        else none
      else none
  | [command, id, output] =>
      if command = utf8 "receipt" then
        if identityIsValid id && output.head? = some (asciiByte '/') then
          some ((idRequest "get_set_deployment_image_receipt" id).print, some output)
        else none
      else none
  | _ => none

/-- What the arguments ask for. -/
inductive Asks : List Text → Command → Prop
  | list : Asks [utf8 "list"] (.read (.list none))
  | listAfter (id : Text) : Asks [utf8 "list", id] (.read (.list (some id)))
  | history : Asks [utf8 "history"] (.read (.history none))
  | historyAfter (id : Text) : Asks [utf8 "history", id] (.read (.history (some id)))
  | status (id : Text) : Asks [utf8 "status", id] (.read (.status id))
  | receipt (id output : Text) : Asks [utf8 "receipt", id, output] (.read (.receipt id))
  | submit (id : Text) : Asks [utf8 "submit", id] (.submit id)

end Client

/-! ## The bridge -/

namespace Bridge

/-- `Call`, without its metadata. -/
structure ToolCall where
  name : Text
  arguments : Document

/-- The optional map of metadata. -/
def isMetadata : Document → Bool
  | .null => true
  | .object _ => true
  | _ => false

/-- `Call` of a value: an object without other fields, or the three fields in their order. -/
def ToolCall.ofValue : Document → Option ToolCall
  | .object members =>
      if ∀ name ∈ names members,
          name = utf8 "name" ∨ name = utf8 "arguments" ∨ name = utf8 "_meta" then
        match members.lookup (utf8 "name"), members.lookup (utf8 "arguments") with
        | some (.string name), some arguments =>
            if (members.lookup (utf8 "_meta")).all isMetadata then some ⟨name, arguments⟩ else none
        | _, _ => none
      else none
  | .array [.string name, arguments, metadata] =>
      if isMetadata metadata then some ⟨name, arguments⟩ else none
  | _ => none

/-- `identity`. -/
def identity : Document → Option Text
  | .string id => if identityIsValid id then some id else none
  | _ => none

/-- The cursor among the arguments. -/
def after (arguments : Members) : Option Document :=
  match arguments.lookup (utf8 "after") with
  | some .null => some .null
  | some value => if (identity value).isSome then some value else none
  | none => none

/-- `decode_call`: the tool and the request. -/
def decodeCall (params : Option Document) : Option (Text × Document) := do
  let call ← ToolCall.ofValue (← params)
  match call.arguments with
  | .object arguments =>
      if (call.name = utf8 "kapsel.list_approved_actions" ||
          call.name = utf8 "kapsel.list_operation_history") && arguments.length = 1 then
        let after ← after arguments
        let requestName := if call.name = utf8 "kapsel.list_approved_actions" then
          "list_approved_actions" else "list_operation_history"
        some (call.name, json [("version", one), ("request", word requestName), ("after", after)])
      else if (call.name = utf8 "kapsel.get_status" || call.name = utf8 "kapsel.get_receipt" ||
          call.name = utf8 "kapsel.submit") && arguments.length = 1 then
        let operationId ← (arguments.lookup (utf8 "operation_id")).bind identity
        let requestName := if call.name = utf8 "kapsel.get_status" then
            "get_set_deployment_image_status"
          else if call.name = utf8 "kapsel.get_receipt" then "get_set_deployment_image_receipt"
          else "submit_set_deployment_image"
        some (call.name, idRequest requestName operationId)
      else none
  | _ => none

/-- What a tool asks for with its arguments. -/
inductive Asks : Text → Document → Command → Prop
  | list : Asks (utf8 "kapsel.list_approved_actions") (.object (named [("after", .null)]))
      (.read (.list none))
  | listAfter (id : Text) : Asks (utf8 "kapsel.list_approved_actions")
      (.object (named [("after", .string id)])) (.read (.list (some id)))
  | history : Asks (utf8 "kapsel.list_operation_history") (.object (named [("after", .null)]))
      (.read (.history none))
  | historyAfter (id : Text) : Asks (utf8 "kapsel.list_operation_history")
      (.object (named [("after", .string id)])) (.read (.history (some id)))
  | status (id : Text) : Asks (utf8 "kapsel.get_status")
      (.object (named [("operation_id", .string id)])) (.read (.status id))
  | receipt (id : Text) : Asks (utf8 "kapsel.get_receipt")
      (.object (named [("operation_id", .string id)])) (.read (.receipt id))
  | submit (id : Text) : Asks (utf8 "kapsel.submit")
      (.object (named [("operation_id", .string id)])) (.submit id)

end Bridge

/-! ## What is sent -/

section
variable {reader : Reader} {id : Text} {after : Option Text}

/-- The bytes are a request frame that asks for the command. -/
structure Sends (reader : Reader) (bytes : Bytes) (command : Command) : Prop where
  nonempty : bytes ≠ []
  short : bytes.length ≤ requestBytesMax
  decoded : decode reader bytes = some command

theorem ofDocument_list (after : Option Text) :
    Request.ofDocument (cursorRequest "list_approved_actions" after) =
      some (.list 1 (nullable .string after)) := by
  cases after <;> rfl

theorem ofDocument_history (after : Option Text) :
    Request.ofDocument (cursorRequest "list_operation_history" after) =
      some (.history 1 (nullable .string after)) := by
  cases after <;> rfl

theorem ofDocument_status (id : Text) :
    Request.ofDocument (idRequest "get_set_deployment_image_status" id) = some (.status 1 id) := rfl

theorem ofDocument_receipt (id : Text) :
    Request.ofDocument (idRequest "get_set_deployment_image_receipt" id) = some (.receipt 1 id) :=
  rfl

theorem ofDocument_submit (id : Text) :
    Request.ofDocument (idRequest "submit_set_deployment_image" id) = some (.submit 1 id) := rfl

/-- An object that is short and readable is sent, if it is a request. -/
theorem sends_of_measured {members : Members} {request : Request} {command : Command}
    {bound : ℕ} {texts : List Text} (h : Document.Measured 127 (.object members) bound texts)
    (hbound : bound + Document.escapesOf texts ≤ requestBytesMax)
    (hrequest : Request.ofDocument (.object members) = some request)
    (hcommand : request.command = some command) :
    Sends reader (Document.object members).print command := by
  have hprint : (Document.object members).print = 123 :: (Document.printMembers members ++ [125]) :=
    rfl
  have hlength : (Document.object members).print.length ≤ requestBytesMax :=
    h.length_print_le.trans hbound
  have hempty : (Document.object members).print.isEmpty = false := by rw [hprint]; rfl
  have hfind : (Document.object members).print.find? (fun b => !isAsciiWhitespace b) =
      some (asciiByte '\x7b') := by rw [hprint]; rfl
  refine ⟨by rw [hprint]; exact List.cons_ne_nil _ _, hlength, ?_⟩
  unfold decode
  rw [hempty, hfind, reader.parse_print _ h.readable]
  simp only [Nat.not_lt.mpr hlength, decide_false, Bool.false_or, ne_eq, not_true,
    Bool.false_eq_true, if_false]
  show (Request.ofDocument (.object members) >>= Request.command) = some command
  rw [hrequest]
  exact hcommand

theorem measured_one {depth : ℕ} : Document.Measured depth one 1 [] := by
  cases depth <;> exact ⟨rfl, Nat.le_refl 1, rfl⟩

theorem measured_id {depth : ℕ} (h : identityIsValid id = true) :
    Document.Measured depth (.string id) 130 [id] :=
  Document.measured_free (fits_of_identityIsValid h).ascii (fits_of_identityIsValid h).length_le

theorem escapesOf_id (h : identityIsValid id = true) : Document.escapesOf [id] ≤ 640 := by
  have hlength := (fits_of_identityIsValid h).length_le
  have hescapes := textEscapes_le id
  show textEscapes id + 0 ≤ 640
  omega

/-- **A request of three members is sent.** -/
theorem sends_members {key : Text} {value : Document} {texts : List Text} {name : String}
    (hkey : isAsciiText key = true) (hkeyPlain : key.all isPlain = true) (hkeyLength : key.length ≤ 64)
    (hvalue : Document.Measured 126 value 130 texts) (htexts : Document.escapesOf texts ≤ 640)
    (hascii : isAsciiText (utf8 name) = true) (hplain : (utf8 name).all isPlain = true)
    (hlength : (utf8 name).length ≤ 64) {request : Request} {command : Command}
    (hrequest : Request.ofDocument (.object [(key, value), (utf8 "request", word name),
      (utf8 "version", one)]) = some request)
    (hcommand : request.command = some command) :
    Sends reader (Document.object [(key, value), (utf8 "request", word name),
      (utf8 "version", one)]).print command := by
  have hname : Document.Measured 126 (word name) 66 [] :=
    Document.measured_plain hascii hplain hlength
  have hversion : Document.MeasuredMembers 126 [(utf8 "version", one)] 12 [] :=
    Document.MeasuredMembers.cons rfl rfl measured_one Document.measuredMembers_nil
  have hnamed : Document.MeasuredMembers 126 [(utf8 "request", word name), (utf8 "version", one)]
    89 [] := Document.MeasuredMembers.cons rfl rfl hname hversion
  have hmembers := Document.MeasuredMembers.cons hkey hkeyPlain hvalue hnamed
  refine sends_of_measured (hmembers.object (List.cons_ne_nil _ _)) ?_ hrequest hcommand
  rw [List.append_nil, requestBytesMax]
  omega

/-- A request with an identity is sent. -/
theorem sends_id {name : String} (hascii : isAsciiText (utf8 name) = true)
    (hplain : (utf8 name).all isPlain = true) (hlength : (utf8 name).length ≤ 64)
    (hid : identityIsValid id = true) {request : Request} {command : Command}
    (hrequest : Request.ofDocument (idRequest name id) = some request)
    (hcommand : request.command = some command) :
    Sends reader (idRequest name id).print command := by
  have hkey : (utf8 "operation_id").length ≤ 64 := by decide
  exact sends_members rfl rfl hkey (measured_id hid) (escapesOf_id hid) hascii hplain hlength
    hrequest hcommand

/-- A request with a cursor is sent. -/
theorem sends_cursor {name : String} (hascii : isAsciiText (utf8 name) = true)
    (hplain : (utf8 name).all isPlain = true) (hlength : (utf8 name).length ≤ 64)
    (hafter : after.all identityIsValid = true) {request : Request} {command : Command}
    (hrequest : Request.ofDocument (cursorRequest name after) = some request)
    (hcommand : request.command = some command) :
    Sends reader (cursorRequest name after).print command := by
  have hkey : (utf8 "after").length ≤ 64 := by decide
  cases after with
  | none =>
    have hnull : Document.Measured 126 (nullable .string (none : Option Text)) 130 [] :=
      Document.measured_null.mono (by decide)
    exact sends_members rfl rfl hkey hnull (by decide) hascii hplain hlength hrequest hcommand
  | some id =>
    exact sends_members rfl rfl hkey (measured_id hafter) (escapesOf_id hafter) hascii hplain hlength
      hrequest hcommand

theorem cursor_nullable (h : after.all identityIsValid = true) :
    cursor (nullable .string after) = some after := by
  cases after with
  | none => rfl
  | some id =>
    have hid : identityIsValid id = true := h
    show (if identityIsValid id then some (some id) else none) = some (some id)
    rw [if_pos hid]

theorem sends_list (h : after.all identityIsValid = true) :
    Sends reader (cursorRequest "list_approved_actions" after).print (.read (.list after)) := by
  refine sends_cursor rfl rfl (by decide) h (ofDocument_list after) ?_
  rw [Request.command, if_pos rfl, cursor_nullable h]
  rfl

theorem sends_history (h : after.all identityIsValid = true) :
    Sends reader (cursorRequest "list_operation_history" after).print (.read (.history after)) := by
  refine sends_cursor rfl rfl (by decide) h (ofDocument_history after) ?_
  rw [Request.command, if_pos rfl, cursor_nullable h]
  rfl

theorem sends_status (h : identityIsValid id = true) :
    Sends reader (idRequest "get_set_deployment_image_status" id).print (.read (.status id)) := by
  refine sends_id rfl rfl (by decide) h (ofDocument_status id) ?_
  rw [Request.command, h]
  rfl

theorem sends_receipt (h : identityIsValid id = true) :
    Sends reader (idRequest "get_set_deployment_image_receipt" id).print (.read (.receipt id)) := by
  refine sends_id rfl rfl (by decide) h (ofDocument_receipt id) ?_
  rw [Request.command, h]
  rfl

theorem sends_submit (h : identityIsValid id = true) :
    Sends reader (idRequest "submit_set_deployment_image" id).print (.submit id) := by
  refine sends_id rfl rfl (by decide) h (ofDocument_submit id) ?_
  rw [Request.command, h]
  rfl

end

/-! ## What is asked is sent -/

section
variable {reader : Reader} {command : Command}

/-- The identity or cursor of a command is valid. -/
def Command.Valid : Command → Prop
  | .read (.list after) => after.all identityIsValid = true
  | .read (.history after) => after.all identityIsValid = true
  | .read (.status id) => identityIsValid id = true
  | .read (.receipt id) => identityIsValid id = true
  | .submit id => identityIsValid id = true

theorem valid_of_cursor {value : Document} {after : Option Text} (h : cursor value = some after) :
    after.all identityIsValid = true := by
  unfold cursor at h
  split at h
  · rw [← Option.some.inj h]
    rfl
  · split at h
    · rename_i hid
      rw [← Option.some.inj h]
      exact hid
    · cases h
  · cases h

theorem valid_of_command {request : Request} (h : request.command = some command) :
    command.Valid := by
  have hcursor : ∀ {version : UInt8} {after : Document} {f : Option Text → Command},
      (if version = 1 then (cursor after).map f else none) = some command →
      ∃ after', after'.all identityIsValid = true ∧ command = f after' := by
    intro version after f hf
    split at hf
    · obtain ⟨after', hafter, hcommand⟩ := Option.map_eq_some_iff.mp hf
      exact ⟨after', valid_of_cursor hafter, hcommand.symm⟩
    · cases hf
  have hid : ∀ {version : UInt8} {id : Text} {named : Command},
      (if version = 1 && identityIsValid id then some named else none) = some command →
      identityIsValid id = true ∧ command = named := by
    intro version id named hf
    split at hf
    · rename_i hboth
      exact ⟨(Bool.and_eq_true _ _ ▸ hboth).2, (Option.some.inj hf).symm⟩
    · cases hf
  cases request with
  | list =>
    obtain ⟨after, hafter, rfl⟩ := hcursor h
    exact hafter
  | history =>
    obtain ⟨after, hafter, rfl⟩ := hcursor h
    exact hafter
  | status =>
    obtain ⟨hvalid, rfl⟩ := hid h
    exact hvalid
  | receipt =>
    obtain ⟨hvalid, rfl⟩ := hid h
    exact hvalid
  | submit =>
    obtain ⟨hvalid, rfl⟩ := hid h
    exact hvalid

/-- **Only valid commands are decoded.** -/
theorem valid_of_decode {bytes : Bytes} (h : decode reader bytes = some command) :
    command.Valid := by
  unfold decode at h
  split at h
  · cases h
  · obtain ⟨document, -, h⟩ := Option.bind_eq_some_iff.mp h
    obtain ⟨request, -, h⟩ := Option.bind_eq_some_iff.mp h
    exact valid_of_command h

/-! ## The clients -/

theorem listing_eq_some {command : Text} {after : Option Text} {request : Document}
    (h : Client.listing command after = some request) : after.all identityIsValid = true ∧
      request = cursorRequest (if command = utf8 "list" then "list_approved_actions"
        else "list_operation_history") after := by
  unfold Client.listing at h
  split at h
  · cases h
  · rename_i hvalid
    refine ⟨?_, (Option.some.inj h).symm⟩
    cases after with
    | none => rfl
    | some id => simpa using hvalid

/-- **What the command line client sends** is decoded as what its arguments ask for. -/
theorem sends_of_request {arguments : List Text} {bytes : Bytes} {output : Option Text}
    (h : Client.request arguments = some (bytes, output)) :
    ∃ command, Client.Asks arguments command ∧ Sends reader bytes command := by
  unfold Client.request at h
  split at h
  · rename_i name
    split at h
    · rename_i hname
      obtain ⟨request, hlisting, hbytes⟩ := Option.map_eq_some_iff.mp h
      obtain ⟨hvalid, rfl⟩ := listing_eq_some hlisting
      obtain ⟨rfl, -⟩ := Prod.mk.inj hbytes
      by_cases hlist : name = utf8 "list"
      · subst hlist
        exact ⟨_, .list, sends_list hvalid⟩
      · have hhistory : name = utf8 "history" := by simpa [hlist] using hname
        subst hhistory
        exact ⟨_, .history, sends_history hvalid⟩
    · cases h
  · rename_i name id
    split at h
    · rename_i hname
      obtain ⟨request, hlisting, hbytes⟩ := Option.map_eq_some_iff.mp h
      obtain ⟨hvalid, rfl⟩ := listing_eq_some hlisting
      obtain ⟨rfl, -⟩ := Prod.mk.inj hbytes
      by_cases hlist : name = utf8 "list"
      · subst hlist
        exact ⟨_, .listAfter id, sends_list hvalid⟩
      · have hhistory : name = utf8 "history" := by simpa [hlist] using hname
        subst hhistory
        exact ⟨_, .historyAfter id, sends_history hvalid⟩
    · split at h
      · rename_i hname
        split at h
        · rename_i hid
          obtain ⟨rfl, -⟩ := Prod.mk.inj (Option.some.inj h)
          by_cases hstatus : name = utf8 "status"
          · subst hstatus
            exact ⟨_, .status id, sends_status hid⟩
          · have hsubmit : name = utf8 "submit" := by simpa [hstatus] using hname
            subst hsubmit
            exact ⟨_, .submit id, sends_submit hid⟩
        · cases h
      · cases h
  · rename_i name id path
    split at h
    · rename_i hname
      subst hname
      split at h
      · rename_i hboth
        obtain ⟨rfl, -⟩ := Prod.mk.inj (Option.some.inj h)
        exact ⟨_, .receipt id path, sends_receipt (Bool.and_eq_true _ _ ▸ hboth).1⟩
      · cases h
    · cases h
  · cases h

/-- An object of one member. -/
theorem eq_of_lookup {members : Members} {name : Text} {value : Document}
    (hlength : members.length = 1) (h : members.lookup name = some value) :
    members = [(name, value)] := by
  obtain ⟨⟨other, current⟩, rfl⟩ := List.length_eq_one_iff.mp hlength
  rw [lookup_member] at h
  split at h
  · rename_i hname
    rw [hname, Option.some.inj h]
  · cases h

theorem identity_eq_some {value : Document} {id : Text} (h : Bridge.identity value = some id) :
    value = .string id ∧ identityIsValid id = true := by
  unfold Bridge.identity at h
  split at h
  · split at h
    · rename_i hid
      obtain rfl := Option.some.inj h
      exact ⟨rfl, hid⟩
    · cases h
  · cases h

theorem after_eq_some {arguments : Members} {value : Document} (hlength : arguments.length = 1)
    (h : Bridge.after arguments = some value) : ∃ after : Option Text,
      after.all identityIsValid = true ∧ value = nullable .string after ∧
      arguments = named [("after", nullable .string after)] := by
  unfold Bridge.after at h
  split at h
  · rename_i hlookup
    exact ⟨none, rfl, (Option.some.inj h).symm, eq_of_lookup hlength hlookup⟩
  · rename_i hlookup
    split at h
    · rename_i hid
      obtain ⟨id, hid⟩ := Option.isSome_iff_exists.mp hid
      obtain ⟨rfl, hvalid⟩ := identity_eq_some hid
      exact ⟨some id, hvalid, (Option.some.inj h).symm, eq_of_lookup hlength hlookup⟩
    · cases h
  · cases h

/-- **What the bridge sends** is decoded as what the tool call asks for. -/
theorem sends_of_decodeCall {params : Option Document} {tool : Text} {request : Document}
    (h : Bridge.decodeCall params = some (tool, request)) :
    ∃ value arguments command, params = some value ∧
      Bridge.ToolCall.ofValue value = some ⟨tool, arguments⟩ ∧
      Bridge.Asks tool arguments command ∧ Sends reader request.print command ∧
      request.get? (utf8 "operation_id") = command.operationId.map .string := by
  unfold Bridge.decodeCall at h
  obtain ⟨value, hvalue, h⟩ := Option.bind_eq_some_iff.mp h
  obtain ⟨⟨name, callArguments⟩, hcall, h⟩ := Option.bind_eq_some_iff.mp h
  dsimp only at h
  split at h
  · rename_i arguments
    split at h
    · rename_i hname
      obtain ⟨hname, hlength⟩ := Bool.and_eq_true _ _ ▸ hname
      obtain ⟨after, hafter, h⟩ := Option.bind_eq_some_iff.mp h
      obtain ⟨after, hvalid, rfl, rfl⟩ := after_eq_some (of_decide_eq_true hlength) hafter
      obtain ⟨rfl, rfl⟩ := Prod.mk.inj (Option.some.inj h)
      refine ⟨value, .object (named [("after", nullable .string after)]), ?_⟩
      by_cases hlist : name = utf8 "kapsel.list_approved_actions"
      · subst hlist
        refine ⟨.read (.list after), hvalue, hcall, ?_, sends_list hvalid, rfl⟩
        cases after with
        | none => exact .list
        | some id => exact .listAfter id
      · have hhistory : name = utf8 "kapsel.list_operation_history" := by
          simpa [hlist] using hname
        subst hhistory
        refine ⟨.read (.history after), hvalue, hcall, ?_, sends_history hvalid, rfl⟩
        cases after with
        | none => exact .history
        | some id => exact .historyAfter id
    · split at h
      · rename_i hname
        obtain ⟨hname, hlength⟩ := Bool.and_eq_true _ _ ▸ hname
        obtain ⟨id, hid, h⟩ := Option.bind_eq_some_iff.mp h
        obtain ⟨found, hlookup, hid⟩ := Option.bind_eq_some_iff.mp hid
        obtain ⟨rfl, hvalid⟩ := identity_eq_some hid
        obtain rfl := eq_of_lookup (of_decide_eq_true hlength) hlookup
        obtain ⟨rfl, rfl⟩ := Prod.mk.inj (Option.some.inj h)
        refine ⟨value, .object (named [("operation_id", .string id)]), ?_⟩
        by_cases hstatus : name = utf8 "kapsel.get_status"
        · subst hstatus
          exact ⟨_, hvalue, hcall, .status id, sends_status hvalid, rfl⟩
        · by_cases hreceipt : name = utf8 "kapsel.get_receipt"
          · subst hreceipt
            exact ⟨_, hvalue, hcall, .receipt id, sends_receipt hvalid, rfl⟩
          · have hsubmit : name = utf8 "kapsel.submit" := by simpa [hstatus, hreceipt] using hname
            subst hsubmit
            exact ⟨_, hvalue, hcall, .submit id, sends_submit hvalid, rfl⟩
      · cases h
  · cases h

/-! ## What is decoded can be asked -/

theorem listing_of_valid {name : Text} {after : Option Text}
    (h : after.all identityIsValid = true) : Client.listing name after =
      some (cursorRequest (if name = utf8 "list" then "list_approved_actions"
        else "list_operation_history") after) := by
  unfold Client.listing
  cases after with
  | none => rfl
  | some id =>
    have hid : identityIsValid id = true := h
    rw [if_neg (by simp [hid])]

/-- The arguments of the command line client for a command. -/
theorem request_of_valid (h : command.Valid) :
    ∃ arguments bytes output, Client.request arguments = some (bytes, output) ∧
      Client.Asks arguments command ∧ Sends reader bytes command := by
  match command, h with
  | .read (.list none), h => exact ⟨[utf8 "list"], _, none, rfl, .list, sends_list h⟩
  | .read (.list (some id)), h =>
    refine ⟨[utf8 "list", id], (cursorRequest "list_approved_actions" (some id)).print, none, ?_,
      .listAfter id, sends_list h⟩
    show (Client.listing (utf8 "list") (some id)).map _ = _
    rw [listing_of_valid h]
    rfl
  | .read (.history none), h => exact ⟨[utf8 "history"], _, none, rfl, .history, sends_history h⟩
  | .read (.history (some id)), h =>
    refine ⟨[utf8 "history", id], (cursorRequest "list_operation_history" (some id)).print, none,
      ?_, .historyAfter id, sends_history h⟩
    show (Client.listing (utf8 "history") (some id)).map _ = _
    rw [listing_of_valid h]
    rfl
  | .read (.status id), h =>
    have hid : identityIsValid id = true := h
    refine ⟨[utf8 "status", id], (idRequest "get_set_deployment_image_status" id).print, none, ?_,
      .status id, sends_status hid⟩
    show (if identityIsValid id then some _ else none) = _
    rw [if_pos hid]
    rfl
  | .submit id, h =>
    have hid : identityIsValid id = true := h
    refine ⟨[utf8 "submit", id], (idRequest "submit_set_deployment_image" id).print, none, ?_,
      .submit id, sends_submit hid⟩
    show (if identityIsValid id then some _ else none) = _
    rw [if_pos hid]
    rfl
  | .read (.receipt id), h =>
    have hid : identityIsValid id = true := h
    refine ⟨[utf8 "receipt", id, utf8 "/receipt"],
      (idRequest "get_set_deployment_image_receipt" id).print, some (utf8 "/receipt"), ?_,
      .receipt id _, sends_receipt hid⟩
    show (if identityIsValid id && true then some _ else none) = _
    rw [hid]
    rfl

/-- The parameters of a tool call. -/
def Bridge.paramsOf (tool : String) (arguments : List (String × Document)) : Document :=
  .object (named [("name", word tool), ("arguments", .object (named arguments))])

theorem identity_of_valid {id : Text} (h : identityIsValid id = true) :
    Bridge.identity (.string id) = some id := by
  rw [Bridge.identity, if_pos h]

theorem after_of_valid {after : Option Text} (h : after.all identityIsValid = true) :
    Bridge.after (named [("after", nullable .string after)]) = some (nullable .string after) := by
  cases after with
  | none => rfl
  | some id =>
    show (if (Bridge.identity (.string id)).isSome then some (Document.string id) else none) = _
    rw [identity_of_valid h]
    rfl

/-- The tool call of the bridge for a command. -/
theorem decodeCall_of_valid (h : command.Valid) :
    ∃ params tool request, Bridge.decodeCall params = some (tool, request) ∧
      (∃ arguments, params.bind Bridge.ToolCall.ofValue = some ⟨tool, arguments⟩ ∧
        Bridge.Asks tool arguments command) ∧ Sends reader request.print command := by
  match command, h with
  | .read (.list after), h =>
    refine ⟨some (Bridge.paramsOf "kapsel.list_approved_actions" [("after", nullable .string after)]),
      utf8 "kapsel.list_approved_actions", cursorRequest "list_approved_actions" after, ?_,
      ⟨_, rfl, ?_⟩, sends_list h⟩
    · show (Bridge.after (named [("after", nullable .string after)]) >>= _) = _
      rw [after_of_valid h]
      rfl
    · cases after with
      | none => exact .list
      | some id => exact .listAfter id
  | .read (.history after), h =>
    refine ⟨some (Bridge.paramsOf "kapsel.list_operation_history"
      [("after", nullable .string after)]), utf8 "kapsel.list_operation_history",
      cursorRequest "list_operation_history" after, ?_, ⟨_, rfl, ?_⟩, sends_history h⟩
    · show (Bridge.after (named [("after", nullable .string after)]) >>= _) = _
      rw [after_of_valid h]
      rfl
    · cases after with
      | none => exact .history
      | some id => exact .historyAfter id
  | .read (.status id), h =>
    refine ⟨some (Bridge.paramsOf "kapsel.get_status" [("operation_id", .string id)]),
      utf8 "kapsel.get_status", idRequest "get_set_deployment_image_status" id, ?_,
      ⟨_, rfl, .status id⟩, sends_status h⟩
    show (Bridge.identity (.string id) >>= _) = _
    rw [identity_of_valid h]
    rfl
  | .read (.receipt id), h =>
    refine ⟨some (Bridge.paramsOf "kapsel.get_receipt" [("operation_id", .string id)]),
      utf8 "kapsel.get_receipt", idRequest "get_set_deployment_image_receipt" id, ?_,
      ⟨_, rfl, .receipt id⟩, sends_receipt h⟩
    show (Bridge.identity (.string id) >>= _) = _
    rw [identity_of_valid h]
    rfl
  | .submit id, h =>
    refine ⟨some (Bridge.paramsOf "kapsel.submit" [("operation_id", .string id)]),
      utf8 "kapsel.submit", idRequest "submit_set_deployment_image" id, ?_, ⟨_, rfl, .submit id⟩,
      sends_submit h⟩
    show (Bridge.identity (.string id) >>= _) = _
    rw [identity_of_valid h]
    rfl

/-- **The daemon and its two clients agree on every request.**

* What the command line client accepts, and what the bridge accepts, is sent as a frame of at most
  16 KiB that the daemon decodes as the command that was asked for, with its identity or cursor.
* Whatever the daemon decodes can be asked for through either client, and is decoded again. -/
theorem request_wire_agreement (reader : Reader) :
    (∀ arguments bytes output, Client.request arguments = some (bytes, output) →
      ∃ command, Client.Asks arguments command ∧ Sends reader bytes command) ∧
    (∀ params tool request, Bridge.decodeCall params = some (tool, request) →
      ∃ value arguments command, params = some value ∧
        Bridge.ToolCall.ofValue value = some ⟨tool, arguments⟩ ∧
        Bridge.Asks tool arguments command ∧ Sends reader request.print command) ∧
    ∀ bytes command, decode reader bytes = some command →
      (∃ arguments bytes' output, Client.request arguments = some (bytes', output) ∧
        Client.Asks arguments command ∧ Sends reader bytes' command) ∧
      ∃ params tool request, Bridge.decodeCall params = some (tool, request) ∧
        (∃ arguments, params.bind Bridge.ToolCall.ofValue = some ⟨tool, arguments⟩ ∧
          Bridge.Asks tool arguments command) ∧ Sends reader request.print command := by
  refine ⟨fun _ _ _ h => sends_of_request h, fun params tool request h => ?_,
    fun bytes command h => ?_⟩
  · obtain ⟨value, arguments, command, hparams, hcall, hasks, hsends, -⟩ := sends_of_decodeCall h
    exact ⟨value, arguments, command, hparams, hcall, hasks, hsends⟩
  · have hvalid := valid_of_decode h
    exact ⟨request_of_valid hvalid, decodeCall_of_valid hvalid⟩

end

/-- The arguments of a status request, read by the compact reader. -/
theorem status_request_sent : ∃ bytes command,
    Client.request [utf8 "status", utf8 "op-1"] = some (bytes, none) ∧
      Client.Asks [utf8 "status", utf8 "op-1"] command ∧ Sends compact bytes command := by
  have hrequest : Client.request [utf8 "status", utf8 "op-1"] =
      some ((idRequest "get_set_deployment_image_status" (utf8 "op-1")).print, none) := rfl
  obtain ⟨command, hasks, hsends⟩ := (request_wire_agreement compact).1 _ _ _ hrequest
  exact ⟨_, command, hrequest, hasks, hsends⟩

end Daemon
end Kapsel
