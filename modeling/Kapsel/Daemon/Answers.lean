import Kapsel.Daemon.Documents
import Kapsel.Daemon.Results

/-!
# From a request to a document

A reply is made in two steps: the application finds something, and a renderer writes it down.
`find` is the first step and `Found.render` the second (`readObserved_eq`).

`FoundPresentable` is what is known of what was found, in every run (`presentable_of_returns`).
-/

namespace Kapsel

open Grammar Fallible Authority Interaction Interaction.Program

namespace Daemon

open Gateway Gateway.Journal Application Json

variable {C : Crypto}

/-! ## What is found -/

/-- What the application finds for a request. -/
inductive Found where
  | status (result : Except ServiceError (OperationStatus × OperationTargets × ExecutionDisposition))
  | receipt (result : Except ServiceError OperationReceipt)
  | catalog (result : Except ServiceError CatalogPage)
  | history (result : Except ServiceError HistoryPage)

/-- The application's part of a request. -/
def find (trust : List AuthorizationTrust) (approvals : List SelectableApproval)
    (observation : Text → ExecutionObservation) : ReadRequest → Program (Call C) Answer Found
  | .status id => do
      return .status (← (executionStatus (C := C) trust id (observation id)).run)
  | .receipt id => do
      return .receipt (← (Application.receipt (C := C) trust id).run)
  | .list after => return .catalog (listCatalog approvals after)
  | .history after => do
      return .history (← (Application.history (C := C) trust after).run)

/-- The renderer's part. -/
def Found.render (reader : Reader) (observation : Text → ExecutionObservation) : Found → Bytes
  | status result => renderExecutionStatus result
  | receipt result => renderReceipt result
  | catalog (.ok page) => renderCatalog page.entries page.nextCursor
  | catalog (.error error) => serviceError error
  | history (.ok page) => renderExecutionHistory reader page observation
  | history (.error error) => serviceError error

/-- **A reply is what was found, written down.** -/
theorem readObserved_eq (reader : Reader) (trust : List AuthorizationTrust)
    (approvals : List SelectableApproval) (observation : Text → ExecutionObservation)
    (request : ReadRequest) :
    readObserved (C := C) reader trust approvals observation request = do
      return (← find trust approvals observation request).render reader observation := by
  cases request with
  | status id =>
    refine Eq.trans ?_ (bind_bind _ _ _).symm
    rfl
  | receipt id =>
    refine Eq.trans ?_ (bind_bind _ _ _).symm
    rfl
  | list after =>
    simp only [readObserved, find]
    cases listCatalog approvals after <;> rfl
  | history after =>
    refine Eq.trans ?_ (bind_bind _ _ _).symm
    refine congrArg (_ >>= ·) (funext fun found => ?_)
    cases found <;> rfl

/-! ## What is known of it -/

/-- What is known of what was found. -/
def FoundPresentable (C : Crypto) : Found → Prop
  | .status result => ∀ status targets execution, result = .ok (status, targets, execution) →
      Presentable status targets ∧ ∃ seen, execution = .project status seen
  | .receipt result => ∀ receipt, result = .ok receipt → ReceiptPresentable C receipt
  | .catalog result => ∀ page, result = .ok page → CatalogPresentable page
  | .history result => ∀ page, result = .ok page → PagePresentable page

section
variable {trust : List AuthorizationTrust} {approvals : List SelectableApproval}
  {observation : Text → ExecutionObservation}

/-- What a fallible program returns, handed on. -/
theorem Ensures.meets_map {ε α β : Type} {permits : Past C → Call C → Prop} {past : Past C}
    {program : Gateway.Action C ε α} {post : Past C → α → Prop}
    (h : Ensures permits past program post) {f : Except ε α → β} :
    (do return f (← program.run) : Program (Call C) Answer β).Meets permits past fun past' b =>
      ∃ result, b = f result ∧ ∀ a, result = .ok a → post past' a :=
  (meets_bind _ _).mpr (Meets.mono h fun _ result hresult => ⟨result, rfl, hresult⟩)

theorem meets_find (happrovals : ∀ approval ∈ approvals, ActionPresentable approval.handle)
    (request : ReadRequest) :
    (find (C := C) trust approvals observation request).Meets (fun _ _ => True) []
      fun past found => LawfulPast past → FoundPresentable C found := by
  cases request with
  | status id =>
    have hstatus : Ensures (fun _ _ => True) []
        (executionStatus (C := C) trust id (observation id)) fun past found =>
          LawfulPast past → Presentable found.1 found.2.1 ∧
            ∃ seen, found.2.2 = .project found.1 seen :=
      (ensures_status_presentable fun _ => trivial).bind fun past found h =>
        ensures_pure fun hlawful => ⟨h hlawful, _, rfl⟩
    refine (Ensures.meets_map hstatus).mono fun past found h hlawful => ?_
    obtain ⟨result, rfl, hresult⟩ := h
    rintro status targets execution rfl
    exact hresult _ rfl hlawful
  | receipt id =>
    have hreceipt : Ensures (fun _ _ => True) [] (Application.receipt (C := C) trust id) _ :=
      ensures_receipt_presentable fun _ => trivial
    refine (Ensures.meets_map hreceipt).mono fun past found h hlawful => ?_
    obtain ⟨result, rfl, hresult⟩ := h
    rintro receipt rfl
    exact hresult _ rfl hlawful
  | list after => exact fun _ page hpage => catalogPresentable happrovals hpage
  | history after =>
    have hhistory : Ensures (fun _ _ => True) [] (Application.history (C := C) trust after) _ :=
      ensures_history_presentable fun _ => trivial
    refine (Ensures.meets_map hhistory).mono fun past found h hlawful => ?_
    obtain ⟨result, rfl, hresult⟩ := h
    rintro page rfl
    exact hresult _ rfl hlawful

/-- **What is found in a run is presentable**, whatever other sessions write meanwhile. -/
theorem presentable_of_returns (e : Execution C) {s : ℕ} {configuration : ServiceConfiguration}
    (haccepted : validateConfiguration C configuration = .ok approvals) {request : ReadRequest}
    {found : Found}
    (h : Returns (find trust approvals observation request) (Interaction.history s e.moments) found) :
    FoundPresentable C found := by
  have hpresentable := actionPresentable_of_validateConfiguration haccepted
  have hmeets := (meets_find hpresentable request).returns h
  rw [List.append_nil] at hmeets
  refine hmeets fun db hdb => ?_
  obtain ⟨m, hm, -, hdeed⟩ := mem_history.mp hdb
  obtain rfl := e.sound.reads m hm db hdeed
  exact (e.sound.past m hm).1

end

end Daemon
end Kapsel
