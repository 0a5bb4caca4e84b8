import Kapsel.Gateway.Original
import Kapsel.Gateway.Dispatch

/-!
# Frozen history is left alone

Re-selecting an operation enters the same loops again, with other receivers and other signing
material.  What keeps a frozen operation from being observed twice is that a pass reads the row
right before it speaks to a receiver, and that it has the lease: whatever the read showed still
stands, because the writers of a row that is past `requested` are lease holders.

`Undisturbed` is this invariant over all interleavings, and `row_of_consultation` is what it
says of a call: at the moment of the call the row is authorized or attempted.  The columns of a
frozen row are constant because the only edge out of a frozen state writes the receipt.
-/

namespace Kapsel

open Grammar Fallible Authority Interaction Interaction.Program Relation

namespace Gateway

open Journal Application

variable {C : Crypto}

/-! ## What a lease holder read still stands -/

/-- What the newest read of a lease holder showed is still so, for every row past `requested`. -/
def Undisturbed (moments : List (Event C)) (w : World) : Prop :=
  ∀ s entry, active s moments = some entry → Held (history s moments) →
    ∀ db rest, history s moments = readOf db :: rest →
      ∀ t id r, stored db t id = some r → r.value .state ≠ .text OperationState.requested.asSql →
        stored w.db t id = some r

section
variable {moments : List (Event C)} {w w' : World} {s : ℕ} {entry : Entry}

/-- A commit of another session leaves a row past `requested` alone, unless that session has the
lease. -/
theorem stored_of_other_commit {x : Transition C} {past : Past C} {t t' : Table} {id id' : Text}
    {before : Option (Record t')} {after : Record t'} {r : Record t}
    (hcommits : Commits w.db w'.db id' before after) (hmoves : Moves x t' before after)
    (hlicensed : Licensed past x) (hother : ¬ Held past) (hr : stored w.db t id = some r)
    (hstate : r.value .state ≠ .text OperationState.requested.asSql) :
    stored w'.db t id = some r := by
  rw [stored_of_commits hcommits, hr]
  rintro rfl rfl
  have hbefore := hcommits.before.symm.trans hr
  cases hmoves with
  | insertRequested => cases hbefore
  | insertGit => cases hbefore
  | advance hadvances _ =>
    rcases held_of_advances hadvances hlicensed with rfl | hheld
    · obtain rfl := Option.some.inj hbefore
      exact hstate rfl
    · exact hother hheld
  | gitAdvance hadvances _ => exact hother (held_of_gitAdvances hadvances hlicensed)

theorem Undisturbed.act (h : Undisturbed moments w) (hsound : Sound moments w)
    (hactive : active s moments = some entry) {c : Call C} {answer : Answer c}
    (hallowed : allowed entry (history s moments) c) (hreacts : reacts w s c answer w') :
    Undisturbed (⟨s, .act ⟨c, answer⟩, w, w'⟩ :: moments) w' := by
  intro t entry' hactive' hheld db rest hhistory table id r hr hstate
  rw [active_act] at hactive'
  by_cases hts : s = t
  · -- the session itself: its newest exchange is the read, which shows the journal as it is
    subst hts
    rw [history_act_self] at hhistory
    obtain ⟨hnewest, -⟩ := List.cons.inj hhistory
    unfold readOf at hnewest
    cases hnewest
    obtain ⟨rfl, hdb⟩ := hreacts
    rw [← hdb db rfl]
    exact hr
  · rw [history_act_of_ne hts] at hheld hhistory
    have hrow := h t entry' hactive' hheld db rest hhistory table id r hr hstate
    rcases reacts_cases hreacts with rfl | ⟨x, rfl, hcommit, -⟩ | ⟨-, -, rfl⟩
    · exact hrow
    · obtain ⟨t', id', before, after, hcommits, hmoves⟩ :=
        hsound.moves hactive hallowed.1 hallowed.2 hcommit
      have hother : ¬ Held (history s moments) := by
        intro hheld'
        have hholder := hsound.lease s entry hactive hheld'
        rw [hsound.lease t entry' hactive' hheld] at hholder
        exact hts (Option.some.inj hholder).symm
      exact stored_of_other_commit hcommits hmoves hallowed.2 hother hrow hstate
    · exact hrow

/-- **What a lease holder read still stands, after every interleaving.** -/
theorem undisturbed_of_conforms (h : Conforms (environment C) allowed moments w) :
    Undisturbed moments w := by
  induction h with
  | initial => exact fun _ _ hactive => (nomatch hactive)
  | @start moments w s entry hconforms hfresh ih =>
    intro t entry' hactive hheld db rest hhistory
    rw [history_start] at hheld hhistory
    by_cases hts : s = t
    · subst hts
      rw [history_eq_nil_of_fresh hfresh] at hhistory
      cases hhistory
    · rw [active_of_ne hts] at hactive
      exact ih t entry' hactive hheld db rest hhistory
  | @act moments w s entry c a w' hconforms hactive hallowed hreacts ih =>
    exact ih.act (sound_of_conforms hconforms) hactive hallowed hreacts
  | @stop moments w s entry w' hconforms hactive hleaves ih =>
    obtain rfl := hleaves
    intro t entry' hactive' hheld db rest hhistory
    rw [history_stop] at hheld hhistory
    by_cases hts : s = t
    · subst hts
      cases active_stop_self.symm.trans hactive'
    · rw [active_of_ne hts] at hactive'
      exact ih t entry' hactive' hheld db rest hhistory

end

/-! ## Calls of receivers -/

/-- The identity that a session is about. -/
def Entry.concerns (C : Crypto) (entry : Entry) : Option Text :=
  match entry.command with
  | .advance grant _ _ => (GitBinding.verify C grant entry.authorities).toOption.map fun b =>
      b.authorization.operationId
  | command => command.identity

theorem Serves.concerns {entry : Entry} {start : Past C} {p : Approval C}
    (h : Serves entry start p) : entry.concerns C = some p.operationId := by
  obtain ⟨authorities, command⟩ := entry
  cases command with
  | submitAuthorized request signedGrant => exact congrArg some h.2.facts.2.1.symm
  | admitAndReconcile request signedGrant adapter settings turns =>
    exact congrArg some h.2.facts.2.1.symm
  | reconcileLocked request signedGrant adapter settings turns =>
    exact congrArg some h.2.facts.2.1.symm
  | runLockedOperationOnce request signedGrant => exact congrArg some h.2.facts.2.1.symm
  | admitAndReconcileGit id grant configuration signing => exact congrArg some h.2.2.symm
  | advance grant receiver signing =>
    obtain ⟨-, b, rfl, hverify⟩ := h
    show ((GitBinding.verify C grant authorities).toOption.map fun b =>
      b.authorization.operationId) = _
    rw [hverify]
    rfl
  | select approvals id execution turns => exact congrArg some (h.operationId rfl).symm
  | _ => exact h.elim

section
variable {p : Approval C} {later earlier : List (Event C)} {m : Event C}

/-- A read that found the row, taken by a lease holder as its newest exchange, still shows the row
as it is. -/
theorem Execution.row_of_current (e : Execution C) (hsplit : e.moments = later ++ m :: earlier)
    {x : Exchange (Call C) Answer} (hdeed : m.deed = .act x) {own start : Past C}
    (hhistory : history m.session earlier = own ++ start) (hheld : Held own)
    (hcurrent : p.Current own) :
    ∃ state, RetainsIn m.before.db p.table p.operationId p.grant state ∧
      (state = .authorized ∨ state = .applyStarted) := by
  obtain ⟨db, rest, state, rfl, hfinds, hstate⟩ := hcurrent
  have hread : readOf db ∈ history m.session earlier := by
    rw [hhistory]
    exact List.mem_cons_self
  have hsplit' : e.moments = (later ++ [m]) ++ earlier := by
    rw [hsplit, List.append_assoc]
    rfl
  obtain ⟨m', -, -, -, -, hlawful⟩ := e.exists_read hsplit' hread
  obtain ⟨r, hr, hgrant, hvalue⟩ := hfinds.retains hlawful
  have hconforms := e.conforms
  rw [hsplit] at hconforms
  obtain ⟨entry, hactive, -, -⟩ := hconforms.of_append.exchange hdeed
  have hnot : r.value .state ≠ .text OperationState.requested.asSql := by
    rw [hvalue]
    rcases hstate with rfl | rfl <;> decide
  have hheld' : Held (history m.session earlier) := by
    rw [hhistory]
    exact List.mem_append_left start hheld
  have hrow := undisturbed_of_conforms hconforms.of_append.tail.1 m.session entry hactive hheld' db
    (rest ++ start) hhistory _ _ r hr hnot
  exact ⟨state, ⟨r, hrow, hgrant, hvalue⟩, hstate⟩

/-- **At the moment of a call the row of the approval is authorized or attempted.** -/
theorem Execution.row_of_consultation (e : Execution C) (hsplit : e.moments = later ++ m :: earlier)
    {c : Call C} {answer : Answer c} (hdeed : m.deed = .act ⟨c, answer⟩)
    (hc : c.consults = true) {own start : Past C}
    (hhistory : history m.session earlier = own ++ start) (hpassing : Passing p own c) :
    ∃ r state, stored m.before.db p.table p.operationId = some r ∧
      r.value .state = .text (OperationState.asSql state) ∧
      (state = .authorized ∨ state = .applyStarted) := by
  have hm : m ∈ e.moments := by
    rw [hsplit]
    exact List.mem_append_right _ List.mem_cons_self
  have hcurrent : p.Current own → Held own → ∃ r state,
      stored m.before.db p.table p.operationId = some r ∧
        r.value .state = .text (OperationState.asSql state) ∧
        (state = .authorized ∨ state = .applyStarted) := by
    intro hcurrent hheld
    obtain ⟨state, ⟨r, hr, -, hvalue⟩, hstate⟩ :=
      e.row_of_current hsplit hdeed hhistory hheld hcurrent
    exact ⟨r, state, hr, hvalue, hstate⟩
  cases c with
  | identify request => exact hcurrent hpassing.1.1 hpassing.2.1
  | observe request outcome => exact hcurrent hpassing.1.1 hpassing.2.1
  | prepare receiver authorization => exact hcurrent hpassing.1.1 hpassing.2.1
  | observeRef receiver => exact hcurrent hpassing.1 hpassing.2.1
  | apply permission =>
    obtain ⟨a, hrequest, hrow⟩ := row_of_apply e hm hdeed
    cases p with
    | kubernetes a' =>
      have hsame : a'.request = permission.request := Option.some.inj hpassing.1.2
      refine ⟨phaseRecord a (.attempted permission.target none), .applyStarted, ?_, rfl, .inr rfl⟩
      show stored m.before.db .kubernetes a'.request.operationId = _
      rw [hsame, hrequest]
      exact hrow
    | git b => cases hpassing.1.2
  | send permission =>
    obtain ⟨b, hauthorization, hrow⟩ := row_of_send e hm hdeed
    cases p with
    | kubernetes a => cases hpassing.1.2
    | git b' =>
      have hsame : b'.authorization = permission.prepared.authorization :=
        Option.some.inj hpassing.1.2
      refine ⟨gitRecord b (.attempted none), .applyStarted, ?_, rfl, .inr rfl⟩
      show stored m.before.db .git b'.authorization.operationId = _
      rw [hsame, hauthorization]
      exact hrow
  | _ => cases hc

end

/-! ## Frozen rows -/

/-- The states in which what came of the operation is fixed. -/
def fixedStates : List Value :=
  [.text OperationState.notAttempted.asSql, .text OperationState.receiverObserved.asSql,
    .text OperationState.finalized.asSql]

/-- The columns that the receipt adds to a frozen row. -/
def completionColumns : List Column := [.state, .receiptDigest, .receiptBytes, .receiptKeyId]

/-- The frozen parts of two rows are the same. -/
def SameHistory {t : Table} (r r' : Record t) : Prop :=
  ∀ c ∉ completionColumns, r'.value c = r.value c

section
variable {t : Table} {id : Text} {r r' : Record t}

theorem sameHistory_of_rowNext (h : RowNext C t r r') (hfrozen : r.value .state ∈ fixedStates) :
    SameHistory r r' ∧ r'.value .state ∈ fixedStates := by
  rw [← List.contains_iff_mem] at hfrozen ⊢
  cases h with
  | kubernetes a hnext =>
    cases hnext with
    | finalize target response observation receipt =>
      refine ⟨fun c hc => ?_, rfl⟩
      cases c <;> first | rfl | exact absurd (by decide) hc
    | _ => exact absurd hfrozen Bool.false_ne_true
  | git b hnext =>
    cases hnext with
    | finalize statement receipt =>
      refine ⟨fun c hc => ?_, rfl⟩
      cases c <;> first | rfl | exact absurd (by decide) hc
    | _ => exact absurd hfrozen Bool.false_ne_true

/-- **A frozen row stays frozen, with everything but its receipt as it was.** -/
theorem sameHistory_of_evolves {db db' : Database} (h : Evolves C db db')
    (hr : stored db t id = some r) (hfrozen : r.value .state ∈ fixedStates) :
    ∃ r', stored db' t id = some r' ∧ SameHistory r r' ∧ r'.value .state ∈ fixedStates := by
  obtain ⟨r', hr', hnext⟩ := h t id r hr
  refine ⟨r', hr', ?_⟩
  clear hr hr'
  induction hnext with
  | refl => exact ⟨fun _ _ => rfl, hfrozen⟩
  | tail _ hstep ih =>
    obtain ⟨hsame, hfrozen'⟩ := ih
    obtain ⟨hsame', hfrozen''⟩ := sameHistory_of_rowNext hstep hfrozen'
    exact ⟨fun c hc => (hsame' c hc).trans (hsame c hc), hfrozen''⟩

end

/-! ## Receipts -/

/-- The row is finalized with this receipt. -/
structure HasReceipt {t : Table} (r : Record t) (bytes : Bytes) (digest : Text) : Prop where
  finalized : r.value .state = .text OperationState.finalized.asSql
  receipt : r.value .receiptBytes = .blob bytes
  receiptDigest : r.value .receiptDigest = .text digest

section
variable {trust : List AuthorizationTrust} {db : Database} {id : Text} {grant : Bytes} {t : Table}

/-- A receipt that is read is that of the row; and a finalized row has one to be read. -/
theorem Authentic.receipt {tuple : RetainedTuple C} (h : Authentic C trust db id grant t tuple)
    (hlawful : Lawful C db) :
    ∃ r, stored db t id = some r ∧
      (∀ bytes digest, tuple.receipt = .ready bytes digest → HasReceipt r bytes digest) ∧
      (r.value .state = .text OperationState.finalized.asSql →
        ∃ bytes digest, tuple.receipt = .ready bytes digest) := by
  cases h with
  | git b phase r hverify hid hr hdecode =>
    obtain ⟨b', phase', -, rfl, hvalid⟩ := hlawful.gitPhase hr
    obtain ⟨rfl, rfl⟩ := phase_of_decodeRecord hvalid hdecode
    refine ⟨_, hr, fun bytes digest hready => ?_, fun hstate => ?_⟩
    · cases phase with
      | finalized statement receipt =>
        obtain ⟨rfl, rfl⟩ := OperationReceipt.ready.inj hready
        exact ⟨rfl, rfl, rfl⟩
      | _ => cases hready
    · have hphase : phase.state = .finalized := asSql_injective (Value.text.inj hstate)
      cases phase with
      | finalized statement receipt => exact ⟨receipt.bytes, receipt.digest, rfl⟩
      | _ => cases hphase
  | kubernetes retained a hgrant hauthorize hrequest hfound =>
    obtain ⟨r, hr, hdecode, -⟩ := authorizedRecordOn_eq_ok hfound
    rw [operationId_of_authorizeRetained hauthorize] at hr
    obtain ⟨a', phase, -, rfl, hvalid⟩ := hlawful.phase hr
    have hloaded : phase.state = .finalized → retained.operation = phase.loaded a' := by
      intro hstate
      refine loaded_of_decode hvalid hdecode ?_
      rw [state_of_decode_phase hdecode, hstate]
      decide
    have hready : ∀ bytes digest, loadedReceipt retained.operation = .ready bytes digest →
        phase.state = .finalized := by
      intro bytes digest h
      rw [← state_of_decode_phase hdecode]
      cases hoperation : retained.operation with
      | finalized operation => rfl
      | _ =>
        rw [hoperation] at h
        cases h
    refine ⟨_, hr, fun bytes digest h => ?_, fun hstate => ?_⟩
    · have hstate := hready bytes digest h
      have hreceipt : loadedReceipt (phase.loaded a') = .ready bytes digest := by
        rw [← hloaded hstate]
        exact h
      cases phase with
      | finalized target response observation receipt =>
        obtain ⟨rfl, rfl⟩ := OperationReceipt.ready.inj hreceipt
        exact ⟨rfl, rfl, rfl⟩
      | _ => cases hstate
    · have hphase : phase.state = .finalized := asSql_injective (Value.text.inj hstate)
      cases phase with
      | finalized target response observation receipt =>
        refine ⟨receipt.bytes, receipt.digest, ?_⟩
        show loadedReceipt retained.operation = _
        rw [hloaded rfl]
        rfl
      | _ => cases hphase

end

/-! ## The main theorem -/

section
variable {e : Execution C} {later earlier : List (Event C)} {m : Event C} {t : Table} {id : Text}
  {r : Record t}

/-- **A receiver is asked about an operation only while its row is authorized or attempted.** -/
theorem Execution.unfrozen_of_consultation (e : Execution C)
    (hsplit : e.moments = later ++ m :: earlier) {c : Call C} {answer : Answer c}
    (hdeed : m.deed = .act ⟨c, answer⟩) (hc : c.consults = true) :
    ∃ entry id, active m.session earlier = some entry ∧ entry.concerns C = some id ∧
      ∀ t r, stored m.before.db t id = some r → r.value .state ∉ fixedStates := by
  have hm : m ∈ e.moments := by
    rw [hsplit]
    exact List.mem_append_right _ List.mem_cons_self
  obtain ⟨p, entry, own, start, c', answer', hactive, hdeed', hhistory, hserves, hpassing⟩ :=
    e.exists_actsFor hsplit hdeed (.inl hc)
  cases hdeed.symm.trans hdeed'
  refine ⟨entry, p.operationId, hactive, hserves.concerns, fun t r hr => ?_⟩
  obtain ⟨r', state, hr', hvalue, hstate⟩ :=
    e.row_of_consultation hsplit hdeed hc hhistory hpassing
  have hother := e.separate hm _ _ _ hr'
  have hopen : r'.value .state ∉ fixedStates := by
    rw [hvalue]
    rcases hstate with rfl | rfl <;> decide
  by_cases ht : t = p.table
  · subst ht
    obtain rfl := Option.some.inj (hr.symm.trans hr')
    exact hopen
  · obtain rfl : t = p.table.other := by
      revert ht
      cases t <;> cases p.table <;> decide
    cases hother.symm.trans hr

/-- A finalized row is in the journal at the end as it was. -/
theorem stored_of_finalized {db db' : Database} (h : Evolves C db db')
    (hr : stored db t id = some r)
    (hstate : r.value .state = .text OperationState.finalized.asSql) :
    stored db' t id = some r := by
  obtain ⟨r', hr', -, hterminal⟩ := grows_of_evolves h hr
  have hmem : r.value .state ∈ terminalStates := by
    rw [hstate]
    decide
  rw [hr', hterminal hmem]

/-- **Every receipt that is ever read is that of the finalized row.** -/
theorem Execution.receipt_of_returns (e : Execution C) {s : ℕ} {trust : List AuthorizationTrust}
    {bytes : Bytes} {digest : Text} (hreturns : Returns (receipt (C := C) trust id).run
      (history s e.moments) (.ok (.ready bytes digest))) :
    ∃ t, ∃ r : Record t, stored e.world.db t id = some r ∧ HasReceipt r bytes digest := by
  have hensures : Ensures (fun _ _ => True) [] (receipt (C := C) trust id) _ :=
    ensures_receipt_reads fun _ => trivial
  obtain ⟨own, tuple, hpast, hreads, hready⟩ := hensures.returns hreturns
  rw [List.append_nil] at hpast
  rcases hreads.authentic with rfl | ⟨db, t, grant, hread, -, hauthentic⟩
  · cases hready
  · rw [← hpast] at hread
    obtain ⟨m, hm, -, hdeed⟩ := mem_history.mp hread
    obtain rfl := e.sound.reads m hm db hdeed
    obtain ⟨r, hr, hreceipt, -⟩ := hauthentic.receipt (e.sound.past m hm).1
    have hhas := hreceipt bytes digest hready
    exact ⟨t, r, stored_of_finalized (e.sound.evolves hm) hr hhas.finalized, hhas⟩

/-- A receipt that is read after the operation was finalized is there. -/
theorem Execution.receipt_of_start (e : Execution C) {entry : Entry} (hm : m ∈ e.moments)
    (hstart : m.deed = .start entry) (hr : stored m.before.db t id = some r)
    (hstate : r.value .state = .text OperationState.finalized.asSql)
    {trust : List AuthorizationTrust} {result : OperationReceipt}
    (hreturns : Returns (receipt (C := C) trust id).run (history m.session e.moments)
      (.ok result)) : ∃ bytes digest, result = .ready bytes digest := by
  have hretains : ∃ grant, RetainsGrant m.before.db t id grant := by
    cases t with
    | kubernetes =>
      obtain ⟨a, phase, -, rfl, -⟩ := (e.sound.past m hm).1.phase hr
      exact ⟨_, _, hr, rfl⟩
    | git =>
      obtain ⟨b, phase, -, rfl, -⟩ := (e.sound.past m hm).1.gitPhase hr
      exact ⟨_, _, hr, rfl⟩
  obtain ⟨grant, hretains⟩ := hretains
  have hdecides : RetainedDecides e m.session entry t id grant :=
    retainedDecides_of_governed (e.governed_of_start hm hstart hretains)
  obtain ⟨tuple, ⟨m', hm', hs', hdeed', hauthentic⟩, rfl⟩ :=
    hdecides.receiptIs trust result hreturns
  obtain ⟨r', hr', -, hfinalized⟩ := hauthentic.receipt (e.sound.past m' hm').1
  have hkept := stored_of_finalized (e.evolves_of_start hm hstart hm' hs' hdeed') hr hstate
  obtain rfl := Option.some.inj (hkept.symm.trans hr')
  exact hfinalized hstate

end

/-- **Frozen history is left alone.**  In every run, with its crashes, lost answers and selections
anew: whoever asks an adapter or a receiver about an operation is a session for an identity whose
row is not frozen at that moment; a row that is frozen stays frozen, and but for its receipt it
stays as it is; and the receipt of a finalized row is the only one that is ever read for its
identity, and is read by every call that starts afterwards and does not fail. -/
theorem frozen_history_untouched (e : Execution C) :
    (∀ later (m : Event C) earlier (c : Call C) answer, e.moments = later ++ m :: earlier →
      m.deed = .act ⟨c, answer⟩ → c.consults = true →
      ∃ (entry : Entry) (id : Text), active m.session earlier = some entry ∧
        entry.concerns C = some id ∧
        ∀ t r, stored m.before.db t id = some r → r.value .state ∉ fixedStates) ∧
    (∀ later m earlier t id r, e.moments = later ++ m :: earlier →
      stored m.before.db t id = some r → r.value .state ∈ fixedStates →
      ∀ w, (w = e.world ∨ ∃ m' ∈ later, w = m'.before) → ∃ r', stored w.db t id = some r' ∧
        SameHistory r r' ∧ r'.value .state ∈ fixedStates) ∧
    (∀ m ∈ e.moments, ∀ t id r, stored m.before.db t id = some r →
      r.value .state = .text OperationState.finalized.asSql →
      ∀ s trust result, Returns (receipt (C := C) trust id).run (history s e.moments)
          (.ok result) →
        (∀ bytes digest, result = .ready bytes digest → HasReceipt r bytes digest) ∧
        (∀ entry, m.deed = .start entry → m.session = s →
          ∃ bytes digest, result = .ready bytes digest)) := by
  refine ⟨?_, ?_, ?_⟩
  · intro later m earlier c answer hsplit hdeed hc
    exact e.unfrozen_of_consultation hsplit hdeed hc
  · intro later m earlier t id r hsplit hr hfrozen w hw
    have hm : m ∈ e.moments := by
      rw [hsplit]
      exact List.mem_append_right _ List.mem_cons_self
    have hevolves : Evolves C m.before.db w.db := by
      rcases hw with rfl | ⟨m', hm', rfl⟩
      · exact e.sound.evolves hm
      · obtain ⟨newest, middle, rfl⟩ := List.append_of_mem hm'
        rw [List.append_assoc] at hsplit
        exact (e.sound.past m hm).2.1.trans
          (e.evolves_of_mem hsplit (List.mem_append_right _ List.mem_cons_self))
    exact sameHistory_of_evolves hevolves hr hfrozen
  · intro m hm t id r hr hstate s trust result hreturns
    constructor
    · rintro bytes digest rfl
      have hrow := stored_of_finalized (e.sound.evolves hm) hr hstate
      obtain ⟨t', r', hr', hhas⟩ := e.receipt_of_returns hreturns
      by_cases ht : t' = t
      · subst ht
        obtain rfl := Option.some.inj (hrow.symm.trans hr')
        exact hhas
      · obtain rfl : t' = t.other := by
          revert ht
          cases t <;> cases t' <;> decide
        cases (separate_of_conforms e.conforms _ _ _ hrow).symm.trans hr'
    · rintro entry hstart rfl
      exact e.receipt_of_start hm hstart hr hstate hreturns

end Gateway
end Kapsel
