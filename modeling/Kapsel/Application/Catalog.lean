import Kapsel.Application.Service
import Kapsel.Relational.Paging

/-!
# The catalog in pages

`ServiceApplication::approved_actions` shows eight entries of the catalog behind the entry that
the cursor names, in the order of the configuration.  The daemon asks once more to find out
whether another page follows.

No identity is in an accepted catalog twice (`nodup_of_validateConfiguration`), so a cursor
names one position.  `listCatalog_eq` is what one page shows from a position on, and
`flatMap_entries` puts the pages together.
-/

namespace Kapsel

open Fallible Authority Paging

namespace Application

variable {C : Crypto}

/-! ## Pages -/

/-- The position behind the entry that the cursor names. -/
def startBehind (approvals : List SelectableApproval) : Option Text → Except ServiceError ℕ
  | none => .ok 0
  | some id =>
      match approvals.findIdx? fun entry => entry.handle.operationId = id with
      | some index => .ok (index + 1)
      | none => .error .invalidRequest

/-- `ServiceApplication::approved_actions`. -/
def approvedActions (approvals : List SelectableApproval) (after : Option Text) :
    Except ServiceError (List ApprovedAction) := do
  let start ← startBehind approvals after
  return ((approvals.drop start).take 8).map (·.handle)

/-- A page of the catalog: the entries, and where the next page begins. -/
structure CatalogPage where
  entries : List ApprovedAction
  nextCursor : Option Text

/-- The `List` request of `read_observed`, before it is rendered: the last entry is the next
cursor if anything is behind it. -/
def listCatalog (approvals : List SelectableApproval) (after : Option Text) :
    Except ServiceError CatalogPage := do
  let entries ← approvedActions approvals after
  match entries.getLast? with
  | none => return ⟨entries, none⟩
  | some last =>
      let rest ← approvedActions approvals (some last.operationId)
      return ⟨entries, if rest.isEmpty then none else some last.operationId⟩

/-! ## An accepted catalog -/

/-- The identities of a catalog. -/
def catalogIds (approvals : List SelectableApproval) : List Text :=
  approvals.map (·.handle.operationId)

theorem nodup_of_selectApprovals {trust : List AuthorizationTrust}
    {approvals selectable : List SelectableApproval} {rest : List ServiceApproval}
    (h : selectApprovals C trust approvals rest = .ok selectable)
    (hunique : (catalogIds approvals).Nodup) : (catalogIds selectable).Nodup := by
  induction rest generalizing approvals with
  | nil =>
    obtain rfl := Except.ok.inj h
    exact hunique
  | cons approval rest ih =>
    obtain ⟨handle, -, h⟩ := bind_eq_ok.mp h
    obtain ⟨_, hfresh, h⟩ := bind_eq_ok.mp h
    refine ih h ?_
    have hnew : handle.operationId ∉ catalogIds approvals := by
      have hnone := require_eq_ok.mp hfresh
      rw [Bool.not_eq_true', List.any_eq_false] at hnone
      intro hmem
      obtain ⟨other, hother, hsame⟩ := List.mem_map.mp hmem
      exact hnone other hother (decide_eq_true hsame)
    unfold catalogIds at hunique hnew ⊢
    rw [List.map_append, List.map_cons, List.map_nil]
    refine List.Nodup.append hunique (List.nodup_singleton _) ?_
    rw [List.disjoint_singleton]
    exact hnew

/-- **No identity is in an accepted catalog twice.** -/
theorem nodup_of_validateConfiguration {configuration : ServiceConfiguration}
    {approvals : List SelectableApproval}
    (h : validateConfiguration C configuration = .ok approvals) : (catalogIds approvals).Nodup := by
  obtain ⟨_, -, h⟩ := bind_eq_ok.mp h
  obtain ⟨_, -, h⟩ := bind_eq_ok.mp h
  obtain ⟨_, -, h⟩ := bind_eq_ok.mp h
  obtain ⟨_, -, h⟩ := bind_eq_ok.mp h
  exact nodup_of_selectApprovals h List.nodup_nil

section
variable {approvals : List SelectableApproval} (hunique : (catalogIds approvals).Nodup)
include hunique

/-- An identity names its own position. -/
theorem startBehind_getElem {i : ℕ} (hi : i < approvals.length) :
    startBehind approvals (some approvals[i].handle.operationId) = .ok (i + 1) := by
  have hfind : approvals.findIdx? (fun entry =>
      entry.handle.operationId = approvals[i].handle.operationId) = some i := by
    rw [List.findIdx?_eq_some_iff_getElem]
    refine ⟨hi, decide_eq_true rfl, fun j hj => ?_⟩
    rw [decide_eq_true_eq]
    intro hsame
    have hlength : (catalogIds approvals).length = approvals.length := List.length_map _
    have hj' : j < (catalogIds approvals).length := by omega
    have hi' : i < (catalogIds approvals).length := by omega
    have hids : (catalogIds approvals)[j] = (catalogIds approvals)[i] := by
      simpa [catalogIds] using hsame
    have heq : j = i := (List.Nodup.getElem_inj_iff hunique).mp hids
    omega
  rw [startBehind, hfind]

/-- **One page from a position on.** -/
theorem listCatalog_eq {after : Option Text} {start : ℕ}
    (hstart : startBehind approvals after = .ok start) :
    ∃ next, listCatalog approvals after =
        .ok ⟨((approvals.drop start).take 8).map (·.handle), next⟩ ∧
      (approvals.length ≤ start + 8 → next = none) ∧
      (start + 8 < approvals.length →
        ∃ c, next = some c ∧ startBehind approvals (some c) = .ok (start + 8)) := by
  have hentries : approvedActions approvals after =
      .ok (((approvals.drop start).take 8).map (·.handle)) := bind_of_ok hstart _
  unfold listCatalog
  rw [bind_of_ok hentries]
  by_cases hend : approvals.length ≤ start
  · -- nothing is behind the cursor
    have hnil : approvals.drop start = [] := List.drop_eq_nil_of_le hend
    rw [hnil]
    exact ⟨none, rfl, fun _ => rfl, fun h => absurd h (by omega)⟩
  · obtain ⟨k, hk, hlast⟩ : ∃ k, k + 1 = min (start + 8) approvals.length ∧
        (((approvals.drop start).take 8).map (·.handle)).getLast? =
          approvals[k]?.map (·.handle) := by
      refine ⟨min (start + 8) approvals.length - 1, by omega, ?_⟩
      rw [List.getLast?_map, List.getLast?_eq_getElem?, List.length_take, List.length_drop,
        List.getElem?_take_of_lt (by omega), List.getElem?_drop]
      congr 2
      omega
    have hlt : k < approvals.length := by omega
    rw [List.getElem?_eq_getElem hlt] at hlast
    have hnext : approvedActions approvals (some approvals[k].handle.operationId) =
        .ok (((approvals.drop (k + 1)).take 8).map (·.handle)) :=
      bind_of_ok (startBehind_getElem hunique hlt) _
    rw [hlast]
    refine ⟨_, bind_of_ok hnext _, fun hle => ?_, fun hmore => ?_⟩
    · have hnil : approvals.drop (k + 1) = [] := List.drop_eq_nil_of_le (by omega)
      rw [hnil]
      rfl
    · have hne : ¬ (((approvals.drop (k + 1)).take 8).map (·.handle)).isEmpty = true := by
        rw [List.isEmpty_iff_length_eq_zero, List.length_map, List.length_take, List.length_drop]
        omega
      refine ⟨approvals[k].handle.operationId, if_neg hne, ?_⟩
      have hposition : k + 1 = start + 8 := by omega
      rw [startBehind_getElem hunique hlt, hposition]

end

/-! ## All pages -/

/-- One page of a client; nothing changes a catalog. -/
def Lists (approvals : List SelectableApproval) (_ : Unit) (after : Option Text)
    (page : CatalogPage) (_ : Unit) : Prop :=
  listCatalog approvals after = .ok page

section
variable {approvals : List SelectableApproval} (hunique : (catalogIds approvals).Nodup)
include hunique

/-- The pages from a position on show the rest of the catalog. -/
theorem flatMap_entries {pages : List CatalogPage} {after : Option Text} {start : ℕ}
    (hstart : startBehind approvals after = .ok start) {u u' : Unit}
    (h : Browse (Lists approvals) CatalogPage.nextCursor u after pages u' none) :
    pages.flatMap (·.entries) = (approvals.drop start).map (·.handle) ∧
      ∀ page ∈ pages, page.entries.length ≤ 8 := by
  -- on the pages; the position that the cursor names goes forward by eight
  generalize hlast : (none : Option Text) = last at h
  induction h generalizing start with
  | @page t t' after page hp =>
    obtain ⟨next, hpage, -, hmore⟩ := listCatalog_eq hunique hstart
    obtain rfl := Except.ok.inj (hp.symm.trans hpage)
    have hend : approvals.length ≤ start + 8 := by
      by_contra hlong
      obtain ⟨c, rfl, -⟩ := hmore (by omega)
      cases hlast
    have hall : (approvals.drop start).take 8 = approvals.drop start := by
      refine List.take_of_length_le ?_
      rw [List.length_drop]
      omega
    refine ⟨?_, fun page hpage => ?_⟩
    · rw [List.flatMap_singleton, hall]
    · rw [List.mem_singleton.mp hpage, List.length_map]
      exact List.length_take_le 8 _
  | @more t t' t'' after page c pages last hp hc hrest ih =>
    obtain ⟨next, hpage, hend, hmore⟩ := listCatalog_eq hunique hstart
    obtain rfl := Except.ok.inj (hp.symm.trans hpage)
    have hlong : start + 8 < approvals.length := by
      by_contra hshort
      have hnone := hend (by omega)
      cases hnone.symm.trans hc
    obtain ⟨c', hc', hstart'⟩ := hmore hlong
    obtain rfl := Option.some.inj (hc'.symm.trans hc)
    obtain ⟨hentries, hlengths⟩ := ih hstart' hlast
    refine ⟨?_, fun page hpage => ?_⟩
    · rw [List.flatMap_cons, hentries, ← List.map_append, ← List.drop_drop,
        List.take_append_drop]
    · rcases List.mem_cons.mp hpage with rfl | hpage
      · rw [List.length_map]
        exact List.length_take_le 8 _
      · exact hlengths page hpage

/-- **The catalog comes to an end**, from every cursor that names an entry. -/
theorem exists_browse_catalog :
    ∃ pages, Browse (Lists approvals) CatalogPage.nextCursor () none pages () none := by
  let remaining : Option Text → ℕ := fun after =>
    match startBehind approvals after with
    | .ok start => approvals.length - start
    | .error _ => 0
  have hremaining : ∀ {after start}, startBehind approvals after = .ok start →
      remaining after = approvals.length - start := by
    intro after start hstart
    simp only [remaining, hstart]
  have hstep : ∀ after, (∃ start, startBehind approvals after = .ok start) →
      ∃ page, Lists approvals () after page () ∧ ∀ c, page.nextCursor = some c →
        (∃ start, startBehind approvals (some c) = .ok start) ∧
          remaining (some c) < remaining after := by
    rintro after ⟨start, hstart⟩
    obtain ⟨next, hpage, hend, hmore⟩ := listCatalog_eq hunique hstart
    refine ⟨_, hpage, fun c hc => ?_⟩
    have hlong : start + 8 < approvals.length := by
      by_contra hshort
      cases (hend (by omega)).symm.trans hc
    obtain ⟨c', hc', hstart'⟩ := hmore hlong
    obtain rfl := Option.some.inj (hc'.symm.trans hc)
    refine ⟨⟨_, hstart'⟩, ?_⟩
    rw [hremaining hstart', hremaining hstart]
    omega
  exact exists_browse remaining hstep ⟨0, rfl⟩

end

end Application
end Kapsel
