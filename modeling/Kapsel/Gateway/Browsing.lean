import Kapsel.Application.Catalog
import Kapsel.Gateway.Healthy
import Kapsel.Gateway.Namespace
import Kapsel.Relational.Paging
import Mathlib.Data.Set.List

/-!
# Browsing the retained history

`ServiceApplication::history` shows eight identities of both tables behind a cursor, in byte
order.  `Journal::history_ids` reads nine, so that the page knows whether there is another.

* `historyIds_eq_take`: on a journal of the gateway the query is the sorted rest behind the
  cursor, cut behind nine.  Both tables are in it, no identity twice.
* `Fetches` is one page of a client: a session that starts after everything so far, and
  returns its page while any number of other sessions do what they do.
* `pages_fetches`: such a page keeps the contract of `Paging.PageOf`, for the identities that
  are retained at the moment of its own snapshot.
* `exists_readsPage` and `pageOf_readsPage`: on storage that works the page is always returned.
* `pagination_complete` is what all pages together list, of the history and of the catalog.
-/

namespace Kapsel

open Grammar Fallible Authority Interaction Interaction.Program Paging

namespace Gateway

open Journal Application

variable {C : Crypto}

/-! ## Byte order -/

/-- Byte order, strictly. -/
def Precedes (id id' : Text) : Prop := id < id'

instance : IsTrans Text Precedes := ⟨fun _ _ _ h h' => List.lt_trans h h'⟩

instance : Std.Irrefl Precedes := ⟨fun id => List.lt_irrefl id⟩

theorem precedes_of_le_of_ne {id id' : Text} (h : id ≤ id') (hne : id ≠ id') : Precedes id id' := by
  by_contra hnot
  exact hne (List.le_antisymm h (List.not_lt.mp hnot))

/-! ## The identities of a journal -/

/-- A row is retained under the identity, in one of the tables. -/
def Retained (db : Database) (id : Text) : Prop := ∃ t r, stored db t id = some r

/-- The identities of one table. -/
theorem exists_ids_of_rows (db : Database) (t : Table) :
    ∃ ids : List Text, ((db t).rows.map fun row => row .operationId) = ids.map Value.text ∧
      ids.Nodup ∧ ∀ id, id ∈ ids ↔ ∃ r, stored db t id = some r := by
  have htexts : ((db t).rows.map fun row => row .operationId) ∈
      Set.range (List.map Value.text) := by
    rw [Set.range_list_map]
    intro value hvalue
    obtain ⟨row, hrow, rfl⟩ := List.mem_map.mp hvalue
    obtain ⟨id, -, hid, -, -⟩ := exists_stored_of_mem hrow
    exact ⟨id, hid.symm⟩
  obtain ⟨ids, hids⟩ := htexts
  refine ⟨ids, hids.symm, ?_, ?_⟩
  · have hunique := (db t).unique
    rw [← hids] at hunique
    exact List.Nodup.of_map _ hunique
  · intro id
    have hmem : id ∈ ids ↔ Value.text id ∈ (db t).rows.map fun row => row .operationId := by
      rw [← hids, List.mem_map_of_injective fun _ _ => Value.text.inj]
    rw [hmem, List.mem_map]
    constructor
    · rintro ⟨row, hrow, hrowId⟩
      obtain ⟨id', r, hid', hr, -⟩ := exists_stored_of_mem hrow
      obtain rfl := Value.text.inj (hid'.symm.trans hrowId)
      exact ⟨r, hr⟩
    · rintro ⟨r, hr⟩
      exact ⟨r.value, Relational.Relation.mem_of_select (stored_eq_some.mp hr),
        value_operationId_of_stored hr⟩

/-- **The identities of both tables**, each once. -/
theorem exists_ids {db : Database} (hseparate : Separate db) :
    ∃ ids : List Text, operationIds db = ids.map Value.text ∧ ids.Nodup ∧
      ∀ id, id ∈ ids ↔ Retained db id := by
  obtain ⟨ids, hids, hunique, hmem⟩ := exists_ids_of_rows db .kubernetes
  obtain ⟨ids', hids', hunique', hmem'⟩ := exists_ids_of_rows db .git
  refine ⟨ids ++ ids', ?_, ?_, ?_⟩
  · rw [operationIds, List.map_append, hids, hids', List.map_append]
  · refine List.Nodup.append hunique hunique' fun id hid hid' => ?_
    obtain ⟨r, hr⟩ := (hmem id).mp hid
    obtain ⟨r', hr'⟩ := (hmem' id).mp hid'
    cases (hseparate .kubernetes id r hr).symm.trans hr'
  · intro id
    rw [List.mem_append, hmem, hmem']
    constructor
    · rintro (⟨r, hr⟩ | ⟨r, hr⟩)
      · exact ⟨.kubernetes, r, hr⟩
      · exact ⟨.git, r, hr⟩
    · rintro ⟨t, r, hr⟩
      cases t with
      | kubernetes => exact .inl ⟨r, hr⟩
      | git => exact .inr ⟨r, hr⟩

/-- A retained identity is in the identity grammar. -/
theorem identityIsValid_of_retained {db : Database} (hlawful : Lawful C db) {id : Text}
    (h : Retained db id) : identityIsValid id = true := by
  obtain ⟨t, r, hr⟩ := h
  cases t with
  | kubernetes =>
    obtain ⟨a, p, rfl, -, -⟩ := hlawful.phase hr
    exact a.request.valid.operationId
  | git =>
    obtain ⟨b, p, rfl, -, -⟩ := hlawful.gitPhase hr
    obtain ⟨trust, hverified⟩ := b.verified
    exact hverified.valid.operationId

/-- The identity is behind the cursor. -/
def isBehind (after : Option Text) (id : Text) : Bool := after.all fun cursor => cursor < id

theorem isBehind_iff (after : Option Text) (id : Text) :
    isBehind after id = true ↔ Behind Precedes after id := by
  unfold isBehind Behind Precedes
  cases after with
  | none => simp
  | some c => simp

/-- The retained identities behind a cursor, in byte order. -/
def sortedBehind (ids : List Text) (after : Option Text) : List Text :=
  (ids.filter (isBehind after)).mergeSort fun id id' => id ≤ id'

theorem mem_sortedBehind {ids : List Text} {after : Option Text} {id : Text} :
    id ∈ sortedBehind ids after ↔ id ∈ ids ∧ Behind Precedes after id := by
  rw [sortedBehind, List.mem_mergeSort, List.mem_filter, isBehind_iff]

theorem pairwise_sortedBehind {ids : List Text} (hunique : ids.Nodup) (after : Option Text) :
    (sortedBehind ids after).Pairwise Precedes := by
  have hsorted : (sortedBehind ids after).Pairwise fun id id' => decide (id ≤ id') = true := by
    refine List.pairwise_mergeSort (fun a b c hab hbc => ?_) (fun a b => ?_) _
    · exact decide_eq_true (List.le_trans (of_decide_eq_true hab) (of_decide_eq_true hbc))
    · rw [Bool.or_eq_true, decide_eq_true_eq, decide_eq_true_eq]
      exact List.le_total a b
  have hnodup : (sortedBehind ids after).Nodup :=
    (List.mergeSort_perm _ _).nodup_iff.mpr (hunique.filter _)
  refine (List.Pairwise.and hsorted hnodup).imp fun h => ?_
  exact precedes_of_le_of_ne (of_decide_eq_true h.1) h.2

/-! ## The query -/

theorem mapM_historyId {ids : List Text} (h : ∀ id ∈ ids, identityIsValid id = true) :
    (ids.map Value.text).mapM historyId = .ok ids := by
  induction ids with
  | nil => rfl
  | cons id ids ih =>
    have hfits := fits_of_identityIsValid (h id List.mem_cons_self)
    have hpos : 1 ≤ id.length := List.length_pos_of_ne_nil hfits.nonempty
    have hutf8 := utf8IsValid_of_isAscii hfits.ascii
    have hhead : historyId (.text id) = .ok id := if_pos ⟨hpos, hfits.length_le, hutf8⟩
    have htail := ih fun id' hid' => h id' (List.mem_cons_of_mem _ hid')
    rw [List.map_cons, List.mapM_cons, hhead, htail]
    rfl

/-- **The query of the history**, on a journal of the gateway. -/
theorem historyIds_eq_take {db : Database} (hlawful : Lawful C db) {ids : List Text}
    (hids : operationIds db = ids.map Value.text) (hmem : ∀ id, id ∈ ids ↔ Retained db id)
    (after : Option Text) :
    Journal.historyIds db after = .ok ((sortedBehind ids after).take 9) := by
  have hfilter : (ids.map Value.text).filter (isAfter after) =
      (ids.filter (isBehind after)).map Value.text := by
    rw [List.filter_map]
    rfl
  have hsort : ((ids.filter (isBehind after)).map Value.text).mergeSort inByteOrder =
      (sortedBehind ids after).map Value.text := by
    rw [sortedBehind, List.map_mergeSort]
    intro a _ b _
    rfl
  unfold Journal.historyIds
  rw [hids, hfilter, hsort, ← List.map_take]
  refine mapM_historyId fun id hid => identityIsValid_of_retained hlawful ?_
  exact (hmem id).mp (mem_sortedBehind.mp (List.mem_of_mem_take hid)).1

/-! ## One page -/

/-- What a page shows. -/
def pageIds (page : HistoryPage) : List Text := page.entries.map (·.operationId)

section
variable {permits : Past C → Call C → Prop} (hread : ∀ past, permits past .read)
  {trust : List AuthorizationTrust} {past : Past C} {after : Option Text}
include hread

theorem ensures_historyEntries_ids (ids : List Text) :
    Ensures permits past (historyEntries (C := C) trust ids) fun _ entries =>
      entries.map (·.operationId) = ids := by
  induction ids generalizing past with
  | nil => exact ensures_pure rfl
  | cons id rest ih =>
    refine (ensures_lift (ensures_status hread)).bind fun past₁ found _ => ?_
    refine ih.bind fun past₂ entries hentries => ensures_pure ?_
    rw [List.map_cons, hentries]

/-- **What a page is read from**: one snapshot decides which identities it shows, and where
the next page begins. -/
theorem ensures_history_snapshot :
    Ensures permits past (Application.history (C := C) trust after) fun past' page =>
      ∃ db ids, readOf db ∈ past' ∧ Journal.historyIds db after = .ok ids ∧
        pageIds page = ids.take 8 ∧
        page.nextCursor = if 8 < ids.length then (ids.take 8).getLast? else none := by
  have hids : Ensures permits past (Gateway.historyIds (C := C) after)
      fun past' ids => ∃ db, past' = readOf db :: past ∧ Journal.historyIds db after = .ok ids :=
    ensures_checked fun _ _ => (ensures_snapshot hread).bind fun past₁ db hpast₁ =>
      ensures_checked fun ids hids => ensures_checked fun _ _ => ensures_pure ⟨db, hpast₁, hids⟩
  refine (ensures_mapErr hids).bind fun past₁ ids h₁ => ?_
  obtain ⟨db, rfl, hids⟩ := h₁
  refine (ensures_historyEntries_ids hread (ids.take 8)).suffix.bind fun past₂ entries h₂ => ?_
  refine ensures_pure ⟨db, ids, h₂.1.subset List.mem_cons_self, hids, h₂.2, ?_⟩
  rfl

end

/-- **A page keeps its contract**, for the identities that its snapshot shows. -/
theorem pageOf_historyIds {db : Database} (hlawful : Lawful C db) (hseparate : Separate db)
    {after : Option Text} {ids : List Text} (hids : Journal.historyIds db after = .ok ids) :
    PageOf Precedes 8 (Retained db) after (ids.take 8)
      (if 8 < ids.length then (ids.take 8).getLast? else none) := by
  obtain ⟨all, hall, hunique, hmem⟩ := exists_ids hseparate
  rw [historyIds_eq_take hlawful hall hmem after] at hids
  obtain rfl := Except.ok.inj hids
  refine pageOf_take (by decide) (pairwise_sortedBehind hunique after) fun id => ?_
  rw [mem_sortedBehind, hmem]

/-! ## Pages while others work -/

theorem world_of_conforms_nil {w : World} (h : Conforms (environment C) allowed [] w) :
    w = (environment C).initial := by
  cases h
  rfl

/-- The world of a run, at a later moment. -/
theorem Execution.evolves_of_fresh {e e' : Execution C} (hlater : e.moments <:+ e'.moments)
    {s : ℕ} (hfresh : ∀ m ∈ e.moments, m.session ≠ s) {m : Event C} (hm : m ∈ e'.moments)
    (hs : m.session = s) : Evolves C e.world.db m.before.db := by
  obtain ⟨newer, hnewer⟩ := hlater
  have hmem : m ∈ newer := by
    rw [← hnewer] at hm
    rcases List.mem_append.mp hm with hm | hm
    · exact hm
    · exact absurd hs (hfresh m hm)
  obtain ⟨later, middle, rfl⟩ := List.append_of_mem hmem
  have hsplit : e'.moments = later ++ m :: (middle ++ e.moments) := by
    rw [← hnewer, List.append_assoc, List.cons_append]
  cases hmoments : e.moments with
  | nil =>
    intro t id r hr
    have hconforms := e.conforms
    rw [hmoments] at hconforms
    have hempty : e.world.db = Database.empty := congrArg World.db (world_of_conforms_nil hconforms)
    rw [hempty, stored_empty] at hr
    cases hr
  | cons last rest =>
    have hworld : last.after = e.world := by
      have hconforms := e.conforms
      rw [hmoments] at hconforms
      exact hconforms.tail.2
    rw [← hworld]
    refine e'.evolves_of_mem hsplit (List.mem_append_right _ ?_)
    rw [hmoments]
    exact List.mem_cons_self

/-- One page of a client: a session that has not started yet when the run is `e`, and has
returned the page when the run is `e'`.  Whatever else happened in between is free. -/
def Fetches (e : Execution C) (after : Option Text) (page : HistoryPage) (e' : Execution C) : Prop :=
  e.moments <:+ e'.moments ∧ ∃ s trust, (∀ m ∈ e.moments, m.session ≠ s) ∧
    Returns (Application.history (C := C) trust after).run (history s e'.moments) (.ok page)

theorem Retained.evolves {db db' : Database} {id : Text} (h : Retained db id)
    (hevolves : Evolves C db db') : Retained db' id := by
  obtain ⟨t, r, hr⟩ := h
  obtain ⟨r', hr', -⟩ := hevolves t id r hr
  exact ⟨t, r', hr'⟩

/-- **Every page of every client keeps its contract.** -/
theorem pages_fetches :
    Pages (Fetches (C := C)) HistoryPage.nextCursor Precedes 8 pageIds
      fun e => Retained e.world.db := by
  rintro e after page e' ⟨hlater, s, trust, hfresh, hreturns⟩
  have hensures : Ensures (fun _ _ => True) [] (Application.history (C := C) trust after) _ :=
    ensures_history_snapshot fun _ => trivial
  obtain ⟨db, ids, hread, hids, hshown, hnext⟩ := hensures.returns hreturns
  obtain ⟨m, hm, hs, hdeed⟩ := mem_history.mp hread
  obtain rfl := e'.sound.reads m hm db hdeed
  refine ⟨Retained m.before.db, fun id h => ?_, fun id h => ?_, ?_⟩
  · exact h.evolves (Execution.evolves_of_fresh hlater hfresh hm hs)
  · exact h.evolves ((e'.sound.past m hm).2.1.trans (e'.sound.past m hm).2.2)
  · rw [hshown, hnext]
    exact pageOf_historyIds (e'.sound.past m hm).1 (e'.separate hm) hids

/-! ## Pages on storage that works -/

section
variable (outside : Outside) (s : ℕ) (trust : List AuthorizationTrust)

/-- One page on a journal that nobody changes. -/
def ReadsPage (w : World) (after : Option Text) (page : HistoryPage) (w' : World) : Prop :=
  Yields (healthy (C := C) outside s) w (Application.history (C := C) trust after) page w'

variable {outside s trust}

/-- A read leaves the world as it is. -/
theorem read_healthy (w : World) (past : Past C) :
    (fun _ c => (healthy (C := C) outside s w c).2 = w : Past C → Call C → Prop) past .read := rfl

theorem exists_yields_historyEntries (w : World) (ids : List Text) :
    ∃ entries, entries.map (·.operationId) = ids ∧
      Yields (healthy (C := C) outside s) w (historyEntries (C := C) trust ids) entries w := by
  induction ids with
  | nil => exact ⟨[], rfl, rfl⟩
  | cons id rest ih =>
    obtain ⟨entries, hids, hentries⟩ := ih
    have hreads : Ensures (fun _ c => (healthy (C := C) outside s w c).2 = w) []
        (Application.status (C := C) trust id) _ := ensures_status (read_healthy w)
    obtain ⟨found, hfound⟩ : ∃ found, (Application.status (C := C) trust id).run.answered
        (healthy outside s) w = (found, w) := ⟨_, Prod.ext rfl (answered_world hreads)⟩
    have hlift : Yields (healthy (C := C) outside s) w
        (ExceptT.lift (Application.status (C := C) trust id).run : Action C ServiceError _)
        found w := by
      show (_ >>= _ : Program (Call C) Answer _).answered (healthy outside s) w = _
      rw [answered_bind, hfound]
      rfl
    refine ⟨⟨id, found⟩ :: entries, ?_, hlift.bind (hentries.bind (yields_pure _ w))⟩
    rw [List.map_cons, hids]

/-- **On storage that works every page is returned**, if its cursor is an identity. -/
theorem exists_readsPage {w : World} (hlawful : Lawful C w.db) (hseparate : Separate w.db)
    {after : Option Text} (hafter : after.all identityIsValid = true) :
    ∃ page, ReadsPage (C := C) outside s trust w after page w := by
  obtain ⟨all, hall, hunique, hmem⟩ := exists_ids hseparate
  have hids := historyIds_eq_take hlawful hall hmem after
  have hvalid : ((sortedBehind all after).take 9).all identityIsValid = true := by
    rw [List.all_eq_true]
    intro id hid
    exact identityIsValid_of_retained hlawful
      ((hmem id).mp (mem_sortedBehind.mp (List.mem_of_mem_take hid)).1)
  have hquery : Yields (healthy (C := C) outside s) w (Gateway.historyIds (C := C) after)
      ((sortedBehind all after).take 9) w := by
    refine yields_checked (require_of_true hafter) ?_
    refine yields_snapshot.bind ?_
    refine yields_checked hids ?_
    exact yields_checked (require_of_true hvalid) (yields_pure _ w)
  have hentries : ∃ entries, entries.map (·.operationId) =
      ((sortedBehind all after).take 9).take 8 ∧ Yields (healthy (C := C) outside s) w
        (historyEntries (C := C) trust (((sortedBehind all after).take 9).take 8)) entries w :=
    exists_yields_historyEntries w _
  obtain ⟨entries, -, hentries⟩ := hentries
  exact ⟨_, (yields_mapErr hquery).bind (hentries.bind (yields_pure _ w))⟩

/-- **Every page on such storage keeps its contract**, and changes nothing. -/
theorem pageOf_readsPage {w w' : World} (hlawful : Lawful C w.db) (hseparate : Separate w.db)
    {after : Option Text} {page : HistoryPage}
    (h : ReadsPage (C := C) outside s trust w after page w') :
    w' = w ∧ PageOf Precedes 8 (Retained w.db) after (pageIds page) page.nextCursor := by
  have hensures : Ensures (fun _ c => (healthy (C := C) outside s w c).2 = w) []
      (Application.history (C := C) trust after) _ := ensures_history_snapshot (read_healthy w)
  have hworld := answered_world hensures
  obtain ⟨past', hpost, hanswers⟩ := Meets.answered hensures
  have hyields : (Application.history (C := C) trust after).run.answered (healthy outside s) w =
      (.ok page, w') := h
  rw [hyields] at hworld hpost
  refine ⟨hworld, ?_⟩
  obtain ⟨db, ids, hread, hids, hshown, hnext⟩ := hpost page rfl
  rcases hanswers _ hread with hmem | hanswer
  · exact absurd hmem List.not_mem_nil
  · have hdb : (Except.ok db : Except SqliteError Database) = .ok w.db := hanswer
    obtain rfl := Except.ok.inj hdb
    rw [hshown, hnext]
    exact pageOf_historyIds hlawful hseparate hids

/-- **The reader comes to an end** on a journal that nobody changes. -/
theorem exists_browse_readsPage {w : World} (hlawful : Lawful C w.db) (hseparate : Separate w.db) :
    ∃ pages, Browse (ReadsPage (C := C) outside s trust) HistoryPage.nextCursor w none pages w
      none := by
  obtain ⟨all, -, -, hmem⟩ := exists_ids hseparate
  have hstep : ∀ after : Option Text, after.all identityIsValid = true →
      ∃ page, ReadsPage (C := C) outside s trust w after page w ∧
        ∀ c, page.nextCursor = some c → (some c).all identityIsValid = true ∧
          all.countP (isBehind (some c)) < all.countP (isBehind after) := by
    intro after hafter
    obtain ⟨page, hpage⟩ := exists_readsPage hlawful hseparate hafter
    refine ⟨page, hpage, fun c hc => ?_⟩
    have hcontract := (pageOf_readsPage hlawful hseparate hpage).2
    rw [hc] at hcontract
    obtain ⟨hretained, -⟩ := hcontract.next_mem (Option.mem_some_self c)
    refine ⟨identityIsValid_of_retained hlawful hretained, ?_⟩
    exact hcontract.countP_lt (fun id hid => (hmem id).mpr hid) isBehind_iff
  exact exists_browse (fun after => all.countP (isBehind after)) hstep rfl

end

/-! ## All pages -/

/-- What following the cursor from the beginning has listed: at most eight identities on a
page, strictly ascending over all pages, so that nothing is listed twice.  They are retained
at the end.  There are at most 64 pages, and when the last one has no cursor, nothing that was
retained at the beginning is missing. -/
structure Listed (before after : Database) (pages : List HistoryPage) (last : Option Text) :
    Prop where
  page_length_le : ∀ page ∈ pages, page.entries.length ≤ 8
  ascending : (pages.flatMap pageIds).Pairwise Precedes
  retained : ∀ id ∈ pages.flatMap pageIds, Retained after id
  length_le : pages.length ≤ 64
  complete : last = none → ∀ id, Retained before id → id ∈ pages.flatMap pageIds

/-- There is not room for more identities than the bound says. -/
theorem length_le_of_retained {db : Database} (hseparate : Separate db) {listed : List Text}
    (hunique : listed.Nodup) (h : ∀ id ∈ listed, Retained db id) :
    listed.length ≤ (counts db).1 := by
  obtain ⟨all, hall, -, hmem⟩ := exists_ids hseparate
  have hlength : all.length = (counts db).1 := by
    rw [← List.length_map Value.text, ← hall, operationIds, List.length_map]
    rfl
  rw [← hlength]
  exact (List.subperm_of_subset hunique fun id hid => (hmem id).mpr (h id hid)).length_le

/-- **Pages that keep their contract list the history.** -/
theorem listed_of_pages {τ : Type} {fetch : τ → Option Text → HistoryPage → τ → Prop}
    {db : τ → Database}
    (hpages : Pages fetch HistoryPage.nextCursor Precedes 8 pageIds fun t => Retained (db t))
    {t t' : τ} {pages : List HistoryPage} {last : Option Text}
    (h : Browse fetch HistoryPage.nextCursor t none pages t' last)
    (hseparate : Separate (db t')) (hwithin : WithinCapacity (db t')) :
    Listed (db t) (db t') pages last := by
  have hascending := h.ascending hpages
  have hretained : ∀ id ∈ pages.flatMap pageIds, Retained (db t') id := fun id hid =>
    (h.mem hpages hid).1
  refine ⟨fun page hpage => ?_, hascending, hretained, ?_, ?_⟩
  · have hlength := h.page_length_le hpages hpage
    rwa [pageIds, List.length_map] at hlength
  · have hunique : (pages.flatMap pageIds).Nodup := by
      refine hascending.imp fun {id id'} hlt => ?_
      rintro rfl
      exact List.lt_irrefl id hlt
    have hroom := length_le_of_retained hseparate hunique hretained
    have hfull := h.length_le hpages
    have hcapacity := hwithin.1
    omega
  · rintro rfl id hid
    rcases h.complete hpages hid (fun c hc => nomatch hc) with hlisted | ⟨c, hc, -⟩
    · exact hlisted
    · cases hc

/-- **What the reader has seen on a journal that nobody changes.** -/
theorem listed_of_readsPage {outside : Outside} {s : ℕ} {trust : List AuthorizationTrust}
    {w w' : World} (hlawful : Lawful C w.db) (hseparate : Separate w.db)
    (hwithin : WithinCapacity w.db) {pages : List HistoryPage} {last : Option Text}
    (h : Browse (ReadsPage (C := C) outside s trust) HistoryPage.nextCursor w none pages w' last) :
    Listed w.db w.db pages last := by
  obtain ⟨-, hbrowse⟩ :=
    h.standing fun after page w' hpage => (pageOf_readsPage hlawful hseparate hpage).1
  have hpages : Pages (fun u after p u' => u = w ∧ u' = w ∧
      ReadsPage (C := C) outside s trust w after p w) HistoryPage.nextCursor Precedes 8 pageIds
      fun _ => Retained w.db := by
    rintro u after page u' ⟨-, -, hpage⟩
    exact ⟨_, fun _ h => h, fun _ h => h, (pageOf_readsPage hlawful hseparate hpage).2⟩
  exact listed_of_pages hpages hbrowse hseparate hwithin

/-- **Pagination is complete.**

* On a reachable journal that stands still, following the cursor comes to an end, and lists
  exactly what is retained.
* While other handles work, nothing is listed twice and nothing that was retained before the
  first page is skipped.
* The pages of an accepted catalog are the catalog, in its order, and come to an end. -/
theorem pagination_complete (C : Crypto) :
    (∀ (e : Execution C) (outside : Outside) (s : ℕ) (trust : List AuthorizationTrust),
      (∃ pages, Browse (ReadsPage (C := C) outside s trust) HistoryPage.nextCursor e.world none
        pages e.world none) ∧
      ∀ pages w' last, Browse (ReadsPage (C := C) outside s trust) HistoryPage.nextCursor e.world
        none pages w' last → Listed e.world.db e.world.db pages last) ∧
    (∀ (e e' : Execution C) pages last, Browse Fetches HistoryPage.nextCursor e none pages e' last →
      Listed e.world.db e'.world.db pages last) ∧
    ∀ configuration approvals, validateConfiguration C configuration = .ok approvals →
      (∃ pages, Browse (Lists approvals) CatalogPage.nextCursor () none pages () none) ∧
      ∀ pages, Browse (Lists approvals) CatalogPage.nextCursor () none pages () none →
        pages.flatMap (·.entries) = approvals.map (·.handle) ∧ (catalogIds approvals).Nodup ∧
          ∀ page ∈ pages, page.entries.length ≤ 8 := by
  refine ⟨fun e outside s trust => ?_, fun e e' pages last h => ?_,
    fun configuration approvals h => ?_⟩
  · have hseparate := separate_of_conforms e.conforms
    refine ⟨exists_browse_readsPage e.sound.lawful hseparate, fun pages w' last h => ?_⟩
    exact listed_of_readsPage e.sound.lawful hseparate (within_of_conforms e.conforms) h
  · exact listed_of_pages pages_fetches h (separate_of_conforms e'.conforms)
      (within_of_conforms e'.conforms)
  · have hunique := nodup_of_validateConfiguration h
    refine ⟨exists_browse_catalog hunique, fun pages hbrowse => ?_⟩
    obtain ⟨hentries, hlengths⟩ := flatMap_entries hunique rfl hbrowse
    exact ⟨hentries, hunique, hlengths⟩

end Gateway
end Kapsel
