import Mathlib.Data.List.Nodup
import Mathlib.Data.List.Basic
import Mathlib.Order.Defs.Unbundled

/-!
# Reading an ordered set in pages

A reader that wants to see a whole ordered set asks for one page at a time.  A page shows at
most `n` elements behind a cursor, in order, and says at which cursor the next page begins.
Between two pages the set may grow.

`PageOf` is what one page promises.  It is the contract of the query with one element of
look-ahead, which `pageOf_take` states: take `n + 1` elements of the sorted rest, show `n`
of them, and give the last one shown as the next cursor exactly when one more was found.

`Browse` is a sequence of pages, each fetched at the cursor of the one before, while the
world goes from one state to the next.  From the contract of one page follow, by induction
on the pages:

* `Browse.ascending`: what is listed is strictly ascending over all pages;
* `Browse.complete`: nothing that was there at the beginning is skipped;
* `Browse.length_le`: there cannot be more pages than the set has room for;
* `exists_browse`: where each page brings the cursor forward, the reader comes to an end.
-/

namespace Kapsel
namespace Paging

/-! ## Pages -/

section
variable {α : Type}

/-- The element is behind the cursor. -/
def Behind (r : α → α → Prop) (after : Option α) (x : α) : Prop := ∀ c ∈ after, r c x

/-- What one page promises: of the elements of `S` behind the cursor it shows the first ones,
at most `n`, and the next page begins behind the last one shown. -/
structure PageOf (r : α → α → Prop) (n : ℕ) (S : α → Prop) (after : Option α) (shown : List α)
    (next : Option α) : Prop where
  ascending : shown.Pairwise r
  length_le : shown.length ≤ n
  mem : ∀ x ∈ shown, S x ∧ Behind r after x
  complete : ∀ x, S x → Behind r after x → x ∈ shown ∨ ∃ c ∈ next, r c x
  next_last : ∀ c ∈ next, shown.getLast? = some c
  next_full : ∀ c ∈ next, shown.length = n

variable {r : α → α → Prop} {n : ℕ} {S : α → Prop} {after : Option α}

theorem rel_getLast_of_mem_drop {l : List α} (h : l.Pairwise r) {c x : α}
    (hlast : (l.take n).getLast? = some c) (hx : x ∈ l.drop n) : r c x := by
  have hc : c ∈ l.take n := List.mem_of_getLast? hlast
  rw [← List.take_append_drop n l] at h
  exact (List.pairwise_append.mp h).2.2 c hc x hx

/-- **Look-ahead by one element.**  The sorted rest, cut behind `n + 1` elements, is a page. -/
theorem pageOf_take (hn : 0 < n) {rest : List α} (hsorted : rest.Pairwise r)
    (hmem : ∀ x, x ∈ rest ↔ S x ∧ Behind r after x) :
    PageOf r n S after ((rest.take (n + 1)).take n)
      (if n < (rest.take (n + 1)).length then ((rest.take (n + 1)).take n).getLast? else none) := by
  have htake : (rest.take (n + 1)).take n = rest.take n := by
    rw [List.take_take, Nat.min_eq_left (Nat.le_succ n)]
  have hlength : n < (rest.take (n + 1)).length ↔ n < rest.length := by
    rw [List.length_take]
    omega
  rw [htake]
  refine ⟨hsorted.sublist (List.take_sublist n rest), List.length_take_le n rest, ?_, ?_, ?_, ?_⟩
  · intro x hx
    exact (hmem x).mp (List.mem_of_mem_take hx)
  · intro x hS hbehind
    have hx := (hmem x).mpr ⟨hS, hbehind⟩
    rw [← List.take_append_drop n rest] at hx
    rcases List.mem_append.mp hx with hshown | hmore
    · exact .inl hshown
    · have hlong : n < rest.length := by
        have hpos := List.length_pos_of_mem hmore
        rw [List.length_drop] at hpos
        omega
      have hne : rest.take n ≠ [] := by
        intro hnil
        have hzero := congrArg List.length hnil
        rw [List.length_take, List.length_nil] at hzero
        omega
      have hlast := List.getLast?_eq_some_getLast hne
      refine .inr ⟨(rest.take n).getLast hne, ?_, rel_getLast_of_mem_drop hsorted hlast hmore⟩
      rw [if_pos (hlength.mpr hlong), Option.mem_def]
      exact hlast
  · intro c hc
    split at hc
    · exact hc
    · cases hc
  · intro c hc
    split at hc
    · rename_i hlong
      rw [List.length_take]
      have := hlength.mp hlong
      omega
    · cases hc

/-- The next cursor is an element of the set behind the cursor. -/
theorem PageOf.next_mem {shown : List α} {next : Option α} (h : PageOf r n S after shown next)
    {c : α} (hc : c ∈ next) : S c ∧ Behind r after c :=
  h.mem c (List.mem_of_getLast? (h.next_last c hc))

/-- **Each page brings the cursor forward**: fewer elements are behind it. -/
theorem PageOf.countP_lt [IsTrans α r] [Std.Irrefl r] {shown : List α} {c : α} {all : List α}
    (h : PageOf r n S after shown (some c)) (hall : ∀ x, S x → x ∈ all)
    {behind : Option α → α → Bool} (hbehind : ∀ after x, behind after x = true ↔ Behind r after x) :
    all.countP (behind (some c)) < all.countP (behind after) := by
  obtain ⟨hS, hc⟩ := h.next_mem (Option.mem_some_self c)
  have himp : ∀ x ∈ all, behind (some c) x = true → behind after x = true := by
    intro x _ hx
    rw [hbehind] at hx ⊢
    intro c' hc'
    exact IsTrans.trans c' c x (hc c' hc') (hx c (Option.mem_some_self c))
  obtain ⟨l, l', rfl⟩ := List.append_of_mem (hall c hS)
  have hself : ¬ behind (some c) c = true := by
    rw [hbehind]
    intro hself
    exact Std.Irrefl.irrefl c (hself c (Option.mem_some_self c))
  have hbefore : behind after c = true := (hbehind after c).mpr hc
  rw [List.countP_append, List.countP_append, List.countP_cons_of_neg hself,
    List.countP_cons_of_pos hbefore]
  have hl : l.countP (behind (some c)) ≤ l.countP (behind after) :=
    List.countP_mono_left fun x hx => himp x (List.mem_append_left _ hx)
  have hl' : l'.countP (behind (some c)) ≤ l'.countP (behind after) :=
    List.countP_mono_left fun x hx => himp x (List.mem_append_right _ (List.mem_cons_of_mem _ hx))
  omega

end

/-! ## Following the cursor -/

section
variable {τ κ ρ : Type}

/-- Pages fetched one after another, each at the cursor that the one before returned, while
the world goes on.  The last index is the cursor that the last page returned. -/
inductive Browse (fetch : τ → Option κ → ρ → τ → Prop) (cursor : ρ → Option κ) :
    τ → Option κ → List ρ → τ → Option κ → Prop
  | page {t t' : τ} {after : Option κ} {p : ρ} :
      fetch t after p t' → Browse fetch cursor t after [p] t' (cursor p)
  | more {t t' t'' : τ} {after : Option κ} {p : ρ} {c : κ} {ps : List ρ} {last : Option κ} :
      fetch t after p t' → cursor p = some c → Browse fetch cursor t' (some c) ps t'' last →
      Browse fetch cursor t after (p :: ps) t'' last

variable {fetch : τ → Option κ → ρ → τ → Prop} {cursor : ρ → Option κ}

/-- **The reader comes to an end** where the world stands still and each page brings the
cursor forward. -/
theorem exists_browse {t : τ} {good : Option κ → Prop} (measure : Option κ → ℕ)
    (hfetch : ∀ after, good after → ∃ p, fetch t after p t ∧
      ∀ c, cursor p = some c → good (some c) ∧ measure (some c) < measure after)
    {after : Option κ} (hgood : good after) :
    ∃ ps, Browse fetch cursor t after ps t none := by
  induction hm : measure after using Nat.strongRecOn generalizing after with
  | _ m ih =>
    obtain ⟨p, hp, hnext⟩ := hfetch after hgood
    cases hc : cursor p with
    | none =>
      have hbrowse : Browse fetch cursor t after [p] t (cursor p) := .page hp
      rw [hc] at hbrowse
      exact ⟨[p], hbrowse⟩
    | some c =>
      obtain ⟨hgood', hlt⟩ := hnext c hc
      obtain ⟨ps, hps⟩ := ih (measure (some c)) (hm ▸ hlt) hgood' rfl
      exact ⟨p :: ps, .more hp hc hps⟩

/-- A world that stands still during each page stands still during all of them. -/
theorem Browse.standing {t t' : τ} (hsame : ∀ after p t', fetch t after p t' → t' = t)
    {after last : Option κ} {ps : List ρ} (h : Browse fetch cursor t after ps t' last) :
    t' = t ∧ Browse (fun u after p u' => u = t ∧ u' = t ∧ fetch t after p t) cursor t after ps t
      last := by
  generalize hu : t = u at h
  induction h with
  | @page u u' after p hp =>
    subst hu
    obtain rfl := hsame _ _ _ hp
    exact ⟨rfl, .page ⟨rfl, rfl, hp⟩⟩
  | @more u u' u'' after p c ps last hp hc hrest ih =>
    subst hu
    obtain rfl := hsame _ _ _ hp
    obtain ⟨rfl, hbrowse⟩ := ih rfl
    exact ⟨rfl, .more ⟨rfl, rfl, hp⟩ hc hbrowse⟩

end

section
variable {τ α ρ : Type} {fetch : τ → Option α → ρ → τ → Prop} {cursor : ρ → Option α}
  {r : α → α → Prop} {n : ℕ} {shows : ρ → List α} {S : τ → α → Prop}

/-- Every page keeps its contract, for a set between the ones before and after it. -/
def Pages (fetch : τ → Option α → ρ → τ → Prop) (cursor : ρ → Option α) (r : α → α → Prop) (n : ℕ)
    (shows : ρ → List α) (S : τ → α → Prop) : Prop :=
  ∀ t after p t', fetch t after p t' → ∃ U : α → Prop,
    (∀ x, S t x → U x) ∧ (∀ x, U x → S t' x) ∧ PageOf r n U after (shows p) (cursor p)

section
variable {t t' : τ} {after last : Option α} {ps : List ρ}
  (hpages : Pages fetch cursor r n shows S) (h : Browse fetch cursor t after ps t' last)
include hpages h

/-- The set only grows. -/
theorem Browse.subset {x : α} (hx : S t x) : S t' x := by
  induction h with
  | page hp =>
    obtain ⟨U, hbefore, hafter, -⟩ := hpages _ _ _ _ hp
    exact hafter x (hbefore x hx)
  | more hp _ _ ih =>
    obtain ⟨U, hbefore, hafter, -⟩ := hpages _ _ _ _ hp
    exact ih (hafter x (hbefore x hx))

/-- What is listed is behind the cursor, and in the set at the end. -/
theorem Browse.mem [IsTrans α r] {x : α} (hx : x ∈ ps.flatMap shows) :
    S t' x ∧ Behind r after x := by
  induction h with
  | @page t t' after p hp =>
    obtain ⟨U, -, hafter, hpage⟩ := hpages _ _ _ _ hp
    rw [List.flatMap_singleton] at hx
    obtain ⟨hU, hbehind⟩ := hpage.mem x hx
    exact ⟨hafter x hU, hbehind⟩
  | @more t t' t'' after p c ps last hp hc hrest ih =>
    obtain ⟨U, -, hafter, hpage⟩ := hpages _ _ _ _ hp
    rw [List.flatMap_cons] at hx
    rcases List.mem_append.mp hx with hx | hx
    · obtain ⟨hU, hbehind⟩ := hpage.mem x hx
      exact ⟨hrest.subset hpages (hafter x hU), hbehind⟩
    · obtain ⟨hS, hbehind⟩ := ih hx
      rw [hc] at hpage
      have hcursor := (hpage.next_mem (Option.mem_some_self c)).2
      exact ⟨hS, fun c' hc' =>
        IsTrans.trans c' c x (hcursor c' hc') (hbehind c (Option.mem_some_self c))⟩

/-- **What is listed is strictly ascending**, over all pages. -/
theorem Browse.ascending [IsTrans α r] : (ps.flatMap shows).Pairwise r := by
  induction h with
  | @page t t' after p hp =>
    obtain ⟨U, -, -, hpage⟩ := hpages _ _ _ _ hp
    rw [List.flatMap_singleton]
    exact hpage.ascending
  | @more t t' t'' after p c ps last hp hc hrest ih =>
    obtain ⟨U, -, -, hpage⟩ := hpages _ _ _ _ hp
    rw [List.flatMap_cons, List.pairwise_append]
    refine ⟨hpage.ascending, ih, fun x hx y hy => ?_⟩
    obtain ⟨-, hbehind⟩ := hrest.mem hpages hy
    have hcy : r c y := hbehind c (Option.mem_some_self c)
    rw [hc] at hpage
    -- the cursor is the last one shown, so what is shown is not behind it
    have hlast := hpage.next_last c (Option.mem_some_self c)
    obtain ⟨init, hinit⟩ := List.getLast?_eq_some_iff.mp hlast
    have hascending := hpage.ascending
    rw [hinit] at hascending hx
    rcases List.mem_append.mp hx with hx | hx
    · have hxc : r x c := (List.pairwise_append.mp hascending).2.2 x hx c (List.mem_singleton_self c)
      exact IsTrans.trans x c y hxc hcy
    · rw [List.mem_singleton.mp hx]
      exact hcy

/-- **Nothing that was there is skipped.** -/
theorem Browse.complete {x : α} (hx : S t x) (hbehind : Behind r after x) :
    x ∈ ps.flatMap shows ∨ ∃ c ∈ last, r c x := by
  induction h with
  | @page t t' after p hp =>
    obtain ⟨U, hbefore, -, hpage⟩ := hpages _ _ _ _ hp
    rw [List.flatMap_singleton]
    exact hpage.complete x (hbefore x hx) hbehind
  | @more t t' t'' after p c ps last hp hc hrest ih =>
    obtain ⟨U, hbefore, hafter, hpage⟩ := hpages _ _ _ _ hp
    rw [hc] at hpage
    rw [List.flatMap_cons]
    rcases hpage.complete x (hbefore x hx) hbehind with hshown | ⟨c', hc', hcx⟩
    · exact .inl (List.mem_append_left _ hshown)
    · obtain rfl := Option.mem_some_iff.mp hc'
      have hlater : Behind r (some c) x := by
        intro c'' hc''
        obtain rfl := Option.mem_some_iff.mp hc''
        exact hcx
      rcases ih (hafter x (hbefore x hx)) hlater with hshown | hlast
      · exact .inl (List.mem_append_right _ hshown)
      · exact .inr hlast

/-- No page is longer than it may be. -/
theorem Browse.page_length_le {p : ρ} (hp : p ∈ ps) : (shows p).length ≤ n := by
  induction h with
  | page hfetch =>
    obtain ⟨U, -, -, hpage⟩ := hpages _ _ _ _ hfetch
    rw [List.mem_singleton.mp hp]
    exact hpage.length_le
  | more hfetch _ _ ih =>
    obtain ⟨U, -, -, hpage⟩ := hpages _ _ _ _ hfetch
    rcases List.mem_cons.mp hp with rfl | hp
    · exact hpage.length_le
    · exact ih hp

/-- **All pages but the last one are full.** -/
theorem Browse.length_le : n * (ps.length - 1) ≤ (ps.flatMap shows).length := by
  induction h with
  | page hp => exact Nat.zero_le _
  | @more t t' t'' after p c ps last hp hc hrest ih =>
    obtain ⟨U, -, -, hpage⟩ := hpages _ _ _ _ hp
    have hfull := hpage.next_full c hc
    have hpos : 0 < ps.length := by cases hrest <;> exact Nat.succ_pos _
    rw [List.flatMap_cons, List.length_append, hfull, List.length_cons]
    have hsplit : n * (ps.length + 1 - 1) = n + n * (ps.length - 1) := by
      obtain ⟨k, hk⟩ := Nat.exists_eq_succ_of_ne_zero (Nat.pos_iff_ne_zero.mp hpos)
      rw [hk, Nat.add_sub_cancel, Nat.succ_sub_one, Nat.mul_succ, Nat.add_comm]
    omega

end

end

end Paging
end Kapsel
