import Mathlib.Data.List.Basic
import Kapsel.Bytes.Separated
import Kapsel.Authority.Images
import Kapsel.Authority.GitGrant
import Kapsel.Receipt.Git

/-!
# The acknowledgement of a push

`acknowledgement` of `gateway/git.rs` reads the report that `git push --porcelain` prints for one
ref: a destination, one line of three fields and the word at the end.  The report is cut at line
feeds and the line at tabs, and a cut is undone by joining the parts (`splitOn_eq_iff`), so an
acknowledgement stands for exactly one form of report.

* `acknowledgement_eq_iff`: a known acknowledgement is the verdict on the two free fields of a
  report.
* `acknowledgement_exact`: the reports of every acknowledgement, and what is never an update.
-/

namespace Kapsel

open Grammar Authority

namespace Gateway

/-! ## The report -/

def lineFeed : UInt8 := 10

def tab : UInt8 := 9

/-- The refspec of the approved transition. -/
def expectedRefspec (approval : GitRefAuthorization) : Text :=
  approval.newCommit ++ utf8 ":" ++ approvedGitRef

/-- `fast_forward_summary`. -/
def fastForwardSummary (summary : Text) (approval : GitRefAuthorization) : Bool :=
  (splitOnce (utf8 "..") summary).any fun (old, new) =>
    4 ≤ old.length && old.length ≤ 40 && 4 ≤ new.length && new.length ≤ 40 &&
      old.isPrefixOf approval.oldCommit && new.isPrefixOf approval.newCommit

/-- The `match` at the end of `acknowledgement`: what the flag and the summary of the approved ref
say. -/
def verdict (flag summary : Text) (commandSucceeded : Bool) (approval : GitRefAuthorization) :
    Acknowledgement :=
  if flag = utf8 " " && commandSucceeded && fastForwardSummary summary approval then .updated
  else if flag = utf8 "!" && !commandSucceeded && (utf8 "[rejected] (").isPrefixOf summary &&
      (utf8 ")").isSuffixOf summary then .rejectedBeforeSend
  else if flag = utf8 "!" && !commandSucceeded && (utf8 "[remote rejected] (").isPrefixOf summary &&
      (utf8 ")").isSuffixOf summary then .receiverRejected
  else .unknown

/-- `acknowledgement`. -/
def acknowledgement (bytes : Bytes) (commandSucceeded : Bool) (approval : GitRefAuthorization) :
    Acknowledgement :=
  if !utf8IsValid bytes then .unknown
  else
    match bytes.splitOn lineFeed with
    | header :: refStatus :: lines =>
        if !(utf8 "To ").isPrefixOf header || lines ≠ [utf8 "Done", utf8 ""] then .unknown
        else
          match refStatus.splitOn tab with
          | [flag, refspec, summary] =>
              if refspec ≠ expectedRefspec approval then .unknown
              else verdict flag summary commandSucceeded approval
          | _ => .unknown
    | _ => .unknown

/-- A report of one ref. -/
def porcelain (destination flag refspec summary : Text) : Bytes :=
  utf8 "To " ++ destination ++ [lineFeed] ++
    (flag ++ [tab] ++ refspec ++ [tab] ++ summary) ++ [lineFeed] ++ utf8 "Done" ++ [lineFeed]

/-- A field holds neither separator. -/
def IsField (text : Text) : Prop := lineFeed ∉ text ∧ tab ∉ text

/-- The bytes are a report of the approved ref. -/
structure Reports (bytes : Bytes) (approval : GitRefAuthorization) (flag summary : Text) : Prop where
  valid : utf8IsValid bytes = true
  fields : IsField flag ∧ IsField summary
  form : ∃ destination, lineFeed ∉ destination ∧
    bytes = porcelain destination flag (expectedRefspec approval) summary

section
variable {approval : GitRefAuthorization} {bytes : Bytes} {succeeded : Bool}
  {flag summary refspec destination : Text}

/-! ## The two cuts -/

/-- A line of three fields. -/
theorem splitOn_tab : ∀ {line : Text},
    line.splitOn tab = [flag, refspec, summary] ↔
      (tab ∉ flag ∧ tab ∉ refspec ∧ tab ∉ summary) ∧
        line = flag ++ [tab] ++ refspec ++ [tab] ++ summary := by
  intro line
  rw [splitOn_eq_iff]
  simp only [List.mem_cons, List.not_mem_nil, or_false, forall_eq_or_imp, forall_eq]
  constructor
  · rintro ⟨-, hfields, rfl⟩
    exact ⟨hfields, by simp [List.intercalate]⟩
  · rintro ⟨hfields, rfl⟩
    exact ⟨by simp, hfields, by simp [List.intercalate]⟩

/-- A report of four parts. -/
theorem splitOn_lineFeed {header refStatus : Text} :
    bytes.splitOn lineFeed = [header, refStatus, utf8 "Done", utf8 ""] ↔
      (lineFeed ∉ header ∧ lineFeed ∉ refStatus) ∧
        bytes = header ++ [lineFeed] ++ refStatus ++ [lineFeed] ++ utf8 "Done" ++ [lineFeed] := by
  have hdone : lineFeed ∉ utf8 "Done" := by decide
  have hempty : lineFeed ∉ utf8 "" := by decide
  have hlast : utf8 "" = [] := rfl
  rw [splitOn_eq_iff]
  simp only [List.mem_cons, List.not_mem_nil, or_false, forall_eq_or_imp, forall_eq]
  constructor
  · rintro ⟨-, ⟨hheader, hstatus, -⟩, rfl⟩
    exact ⟨⟨hheader, hstatus⟩, by simp [List.intercalate, hlast]⟩
  · rintro ⟨⟨hheader, hstatus⟩, rfl⟩
    exact ⟨by simp, ⟨hheader, hstatus, hdone, hempty⟩, by simp [List.intercalate, hlast]⟩

/-! ## What an approval promises -/

theorem not_mem_of_all {p : UInt8 → Bool} {text : Text} {b : UInt8} (h : text.all p = true)
    (hb : p b = false) : b ∉ text := by
  intro hmem
  rw [List.all_eq_true.mp h b hmem] at hb
  cases hb

theorem all_of_gitCommitIdIsValid {commit : Text} (h : gitCommitIdIsValid commit = true) :
    commit.all isLowercaseHex = true := by
  unfold gitCommitIdIsValid at h
  exact (Bool.and_eq_true _ _ ▸ (Bool.and_eq_true _ _ ▸ h).1).2

theorem isField_of_all {p : UInt8 → Bool} {text : Text} (h : text.all p = true)
    (hlineFeed : p lineFeed = false) (htab : p tab = false) : IsField text :=
  ⟨not_mem_of_all h hlineFeed, not_mem_of_all h htab⟩

theorem IsField.append {text text' : Text} (h : IsField text) (h' : IsField text') :
    IsField (text ++ text') := by
  refine ⟨fun hmem => ?_, fun hmem => ?_⟩
  · rcases List.mem_append.mp hmem with hmem | hmem
    · exact h.1 hmem
    · exact h'.1 hmem
  · rcases List.mem_append.mp hmem with hmem | hmem
    · exact h.2 hmem
    · exact h'.2 hmem

/-- The approved refspec is one field. -/
theorem isField_expectedRefspec (h : approval.isValid = true) :
    IsField (expectedRefspec approval) := by
  have hcommit := all_of_gitCommitIdIsValid (GitRefAuthorization.isValid_iff.mp h).newCommit
  have hcolon : IsField (utf8 ":") := ⟨by decide, by decide⟩
  have href : IsField approvedGitRef := ⟨by decide, by decide⟩
  exact ((isField_of_all hcommit rfl rfl).append hcolon).append href

/-! ## Reports -/

theorem lines_of_porcelain (hdestination : lineFeed ∉ destination) (hflag : IsField flag)
    (hrefspec : IsField refspec) (hsummary : IsField summary) :
    (porcelain destination flag refspec summary).splitOn lineFeed =
      [utf8 "To " ++ destination, flag ++ [tab] ++ refspec ++ [tab] ++ summary, utf8 "Done",
        utf8 ""] := by
  have hheader : lineFeed ∉ utf8 "To " ++ destination := by
    intro hmem
    rcases List.mem_append.mp hmem with hmem | hmem
    · exact absurd hmem (by decide)
    · exact hdestination hmem
  have hline : lineFeed ∉ flag ++ [tab] ++ refspec ++ [tab] ++ summary := by
    have htab : lineFeed ∉ [tab] := by decide
    simp only [List.mem_append, not_or]
    exact ⟨⟨⟨⟨hflag.1, htab⟩, hrefspec.1⟩, htab⟩, hsummary.1⟩
  exact splitOn_lineFeed.mpr ⟨⟨hheader, hline⟩, rfl⟩

theorem fields_of_line (hflag : IsField flag) (hrefspec : IsField refspec)
    (hsummary : IsField summary) :
    (flag ++ [tab] ++ refspec ++ [tab] ++ summary).splitOn tab = [flag, refspec, summary] :=
  splitOn_tab.mpr ⟨⟨hflag.2, hrefspec.2, hsummary.2⟩, rfl⟩

/-- The acknowledgement of a report is the verdict on its free fields. -/
theorem acknowledgement_of_reports (h : approval.isValid = true)
    (hreports : Reports bytes approval flag summary) :
    acknowledgement bytes succeeded approval = verdict flag summary succeeded approval := by
  obtain ⟨hvalid, ⟨hflag, hsummary⟩, destination, hdestination, rfl⟩ := hreports
  have hrefspec := isField_expectedRefspec h
  have hlines := lines_of_porcelain hdestination hflag hrefspec hsummary
  have hfields := fields_of_line hflag hrefspec hsummary
  have hprefix : (utf8 "To ").isPrefixOf (utf8 "To " ++ destination) = true :=
    List.isPrefixOf_iff_prefix.mpr (List.prefix_append _ _)
  unfold acknowledgement
  rw [hvalid, hlines]
  simp only [hfields, hprefix]
  simp

/-- **What is acknowledged was reported.** -/
theorem reports_of_acknowledgement
    (h : acknowledgement bytes succeeded approval ≠ .unknown) :
    ∃ flag summary, Reports bytes approval flag summary := by
  unfold acknowledgement at h
  split at h
  · exact absurd rfl h
  rename_i hvalid
  split at h
  · rename_i header refStatus lines hlines
    split at h
    · exact absurd rfl h
    rename_i hframe
    split at h
    · rename_i flag refspec summary hfields
      split at h
      · exact absurd rfl h
      rename_i hrefspec
      rw [Decidable.not_not] at hrefspec
      simp only [Bool.or_eq_true, Bool.not_eq_true', decide_eq_true_eq, not_or, Bool.not_eq_false,
        ne_eq, Decidable.not_not] at hframe
      obtain ⟨hheader, rfl⟩ := hframe
      obtain ⟨⟨hheaderLine, hstatusLine⟩, hbytes⟩ := splitOn_lineFeed.mp hlines
      obtain ⟨⟨hflag, -, hsummary⟩, rfl⟩ := splitOn_tab.mp hfields
      obtain ⟨destination, rfl⟩ := List.isPrefixOf_iff_prefix.mp hheader
      simp only [List.mem_append, not_or] at hheaderLine hstatusLine
      exact ⟨flag, summary, by simpa using hvalid,
        ⟨⟨hstatusLine.1.1.1.1, hflag⟩, ⟨hstatusLine.2, hsummary⟩⟩,
        destination, hheaderLine.2, by rw [hbytes, hrefspec, porcelain]⟩
    · exact absurd rfl h
  · exact absurd rfl h

/-- **A known acknowledgement is the verdict on a report.** -/
theorem acknowledgement_eq_iff (h : approval.isValid = true) {a : Acknowledgement}
    (ha : a ≠ .unknown) :
    acknowledgement bytes succeeded approval = a ↔
      ∃ flag summary, Reports bytes approval flag summary ∧
        verdict flag summary succeeded approval = a := by
  constructor
  · rintro rfl
    obtain ⟨flag, summary, hreports⟩ := reports_of_acknowledgement ha
    exact ⟨flag, summary, hreports, (acknowledgement_of_reports h hreports).symm⟩
  · rintro ⟨flag, summary, hreports, hverdict⟩
    rw [acknowledgement_of_reports h hreports, hverdict]

/-! ## Verdicts -/

/-- A prefix of the commit, of 4 to 40 bytes. -/
structure Abbreviates (text commit : Text) : Prop where
  at_least : 4 ≤ text.length
  at_most : text.length ≤ 40
  isPrefix : text <+: commit

theorem Abbreviates.all {text commit : Text} (h : Abbreviates text commit)
    (hcommit : gitCommitIdIsValid commit = true) : text.all isLowercaseHex = true := by
  refine List.all_eq_true.mpr fun b hb => ?_
  exact List.all_eq_true.mp (all_of_gitCommitIdIsValid hcommit) b (h.isPrefix.subset hb)

/-- The first two dots of a summary stand between the two abbreviations. -/
theorem fastForwardSummary_iff (h : approval.isValid = true) :
    fastForwardSummary summary approval = true ↔
      ∃ old new, Abbreviates old approval.oldCommit ∧ Abbreviates new approval.newCommit ∧
        summary = old ++ utf8 ".." ++ new := by
  unfold fastForwardSummary
  simp only [Option.any_eq_true, Bool.and_eq_true, decide_eq_true_eq, List.isPrefixOf_iff_prefix]
  constructor
  · rintro ⟨⟨old, new⟩, hsplit, ⟨⟨⟨⟨hold, hold'⟩, hnew⟩, hnew'⟩, holdPrefix⟩, hnewPrefix⟩
    exact ⟨old, new, ⟨hold, hold', holdPrefix⟩, ⟨hnew, hnew', hnewPrefix⟩, eq_of_splitOnce hsplit⟩
  · rintro ⟨old, new, hold, hnew, rfl⟩
    have hhex := hold.all (GitRefAuthorization.isValid_iff.mp h).oldCommit
    exact ⟨(old, new), splitOnce_of_not_mem (not_mem_of_all hhex (by decide)),
      ⟨⟨⟨⟨hold.at_least, hold.at_most⟩, hnew.at_least⟩, hnew.at_most⟩, hold.isPrefix⟩,
      hnew.isPrefix⟩

/-- A text that opens with `first` and closes with a byte that `first` does not end with. -/
theorem bracketed_iff {first : Text} (last : UInt8) (hlast : first.getLast? ≠ some last) :
    (first.isPrefixOf summary && List.isSuffixOf [last] summary) = true ↔
      ∃ reason, summary = first ++ reason ++ [last] := by
  rw [Bool.and_eq_true, List.isPrefixOf_iff_prefix, List.isSuffixOf_iff_suffix]
  constructor
  · rintro ⟨⟨rest, rfl⟩, ⟨before, hbefore⟩⟩
    rcases List.eq_nil_or_concat rest with rfl | ⟨reason, b, rfl⟩
    · rw [List.append_nil] at hbefore
      rw [← hbefore, List.getLast?_concat] at hlast
      exact absurd rfl hlast
    · rw [List.concat_eq_append, ← List.append_assoc] at hbefore
      have hb : [last] = [b] := (List.append_inj' hbefore rfl).2
      exact ⟨reason, by rw [hb, List.concat_eq_append, List.append_assoc]⟩
  · rintro ⟨reason, rfl⟩
    exact ⟨⟨reason ++ [last], by rw [List.append_assoc]⟩, ⟨first ++ reason, rfl⟩⟩

/-- Of a refused ref the summary decides. -/
theorem verdict_refused : verdict (utf8 "!") summary false approval =
    if (utf8 "[rejected] (").isPrefixOf summary && (utf8 ")").isSuffixOf summary then
      .rejectedBeforeSend
    else if (utf8 "[remote rejected] (").isPrefixOf summary && (utf8 ")").isSuffixOf summary then
      .receiverRejected
    else .unknown := by
  have hflag : utf8 "!" ≠ utf8 " " := by decide
  unfold verdict
  simp [hflag]

/-- Everything else is an update or nothing. -/
theorem verdict_not_refused (h : ¬(flag = utf8 "!" ∧ succeeded = false)) :
    verdict flag summary succeeded approval =
      if flag = utf8 " " && succeeded && fastForwardSummary summary approval then .updated
      else .unknown := by
  have hnot : (flag = utf8 "!" && !succeeded) = false := by
    rw [Bool.and_eq_false_imp]
    intro hflag
    rw [Bool.not_eq_false']
    exact Bool.of_not_eq_false fun hsucceeded => h ⟨of_decide_eq_true hflag, hsucceeded⟩
  unfold verdict
  rw [hnot]
  simp

theorem verdict_eq_updated :
    verdict flag summary succeeded approval = .updated ↔
      flag = utf8 " " ∧ succeeded = true ∧ fastForwardSummary summary approval = true := by
  by_cases h : flag = utf8 "!" ∧ succeeded = false
  · obtain ⟨rfl, rfl⟩ := h
    rw [verdict_refused]
    constructor
    · intro hverdict
      split at hverdict
      · cases hverdict
      · split at hverdict <;> cases hverdict
    · rintro ⟨-, hsucceeded, -⟩
      cases hsucceeded
  · rw [verdict_not_refused h]
    simp [and_assoc]

theorem rejected_iff :
    ((utf8 "[rejected] (").isPrefixOf summary && (utf8 ")").isSuffixOf summary) = true ↔
      ∃ reason, summary = utf8 "[rejected] (" ++ reason ++ utf8 ")" :=
  bracketed_iff (asciiByte ')') (by decide)

theorem remoteRejected_iff :
    ((utf8 "[remote rejected] (").isPrefixOf summary && (utf8 ")").isSuffixOf summary) = true ↔
      ∃ reason, summary = utf8 "[remote rejected] (" ++ reason ++ utf8 ")" :=
  bracketed_iff (asciiByte ')') (by decide)

/-- No summary opens both ways. -/
theorem not_rejected_of_remoteRejected
    (h : ((utf8 "[remote rejected] (").isPrefixOf summary && (utf8 ")").isSuffixOf summary) =
      true) :
    ((utf8 "[rejected] (").isPrefixOf summary && (utf8 ")").isSuffixOf summary) = false := by
  rw [Bool.and_eq_true, List.isPrefixOf_iff_prefix] at h
  rw [Bool.and_eq_false_imp, List.isPrefixOf_iff_prefix]
  intro hprefix
  have hboth := List.prefix_of_prefix_length_le hprefix h.1 (by decide)
  exact absurd hboth (by decide)

theorem verdict_eq_rejectedBeforeSend :
    verdict flag summary succeeded approval = .rejectedBeforeSend ↔
      flag = utf8 "!" ∧ succeeded = false ∧
        ∃ reason, summary = utf8 "[rejected] (" ++ reason ++ utf8 ")" := by
  rw [← rejected_iff, ← and_assoc]
  by_cases h : flag = utf8 "!" ∧ succeeded = false
  · obtain ⟨rfl, rfl⟩ := h
    rw [verdict_refused]
    split
    · simp [*]
    · split <;> simp [*]
  · rw [verdict_not_refused h]
    simp only [h, false_and, iff_false]
    split <;> simp

theorem verdict_eq_receiverRejected :
    verdict flag summary succeeded approval = .receiverRejected ↔
      flag = utf8 "!" ∧ succeeded = false ∧
        ∃ reason, summary = utf8 "[remote rejected] (" ++ reason ++ utf8 ")" := by
  rw [← remoteRejected_iff, ← and_assoc]
  by_cases h : flag = utf8 "!" ∧ succeeded = false
  · obtain ⟨rfl, rfl⟩ := h
    rw [verdict_refused]
    constructor
    · intro hverdict
      split at hverdict
      · cases hverdict
      · split at hverdict
        · rename_i hremote
          exact ⟨⟨rfl, rfl⟩, hremote⟩
        · cases hverdict
    · rintro ⟨-, hremote⟩
      rw [not_rejected_of_remoteRejected hremote, hremote]
      rfl
  · rw [verdict_not_refused h]
    simp only [h, false_and, iff_false]
    split <;> simp

/-! ## The reports of every acknowledgement -/

/-- The command succeeded, and the approved ref went from the old commit to the new one. -/
def ReportsUpdate (bytes : Bytes) (succeeded : Bool) (approval : GitRefAuthorization) : Prop :=
  succeeded = true ∧ ∃ old new, Abbreviates old approval.oldCommit ∧
    Abbreviates new approval.newCommit ∧
    Reports bytes approval (utf8 " ") (old ++ utf8 ".." ++ new)

/-- The command failed, and the approved ref was refused with a reason behind `opening`. -/
def ReportsRejection (opening : Text) (bytes : Bytes) (succeeded : Bool)
    (approval : GitRefAuthorization) : Prop :=
  succeeded = false ∧ ∃ reason, Reports bytes approval (utf8 "!") (opening ++ reason ++ utf8 ")")

theorem acknowledgement_eq_updated (h : approval.isValid = true) :
    acknowledgement bytes succeeded approval = .updated ↔
      ReportsUpdate bytes succeeded approval := by
  rw [acknowledgement_eq_iff h (by decide)]
  simp only [verdict_eq_updated, fastForwardSummary_iff h]
  constructor
  · rintro ⟨flag, summary, hreports, rfl, hsucceeded, old, new, hold, hnew, rfl⟩
    exact ⟨hsucceeded, old, new, hold, hnew, hreports⟩
  · rintro ⟨hsucceeded, old, new, hold, hnew, hreports⟩
    exact ⟨_, _, hreports, rfl, hsucceeded, old, new, hold, hnew, rfl⟩

theorem acknowledgement_eq_rejectedBeforeSend (h : approval.isValid = true) :
    acknowledgement bytes succeeded approval = .rejectedBeforeSend ↔
      ReportsRejection (utf8 "[rejected] (") bytes succeeded approval := by
  rw [acknowledgement_eq_iff h (by decide)]
  simp only [verdict_eq_rejectedBeforeSend]
  constructor
  · rintro ⟨flag, summary, hreports, rfl, hsucceeded, reason, rfl⟩
    exact ⟨hsucceeded, reason, hreports⟩
  · rintro ⟨hsucceeded, reason, hreports⟩
    exact ⟨_, _, hreports, rfl, hsucceeded, reason, rfl⟩

theorem acknowledgement_eq_receiverRejected (h : approval.isValid = true) :
    acknowledgement bytes succeeded approval = .receiverRejected ↔
      ReportsRejection (utf8 "[remote rejected] (") bytes succeeded approval := by
  rw [acknowledgement_eq_iff h (by decide)]
  simp only [verdict_eq_receiverRejected]
  constructor
  · rintro ⟨flag, summary, hreports, rfl, hsucceeded, reason, rfl⟩
    exact ⟨hsucceeded, reason, hreports⟩
  · rintro ⟨hsucceeded, reason, hreports⟩
    exact ⟨_, _, hreports, rfl, hsucceeded, reason, rfl⟩

/-! ## What is never an update -/

/-- A report shows its fields. -/
theorem Reports.fields_eq (h : approval.isValid = true) {flag' summary' : Text}
    (hreports : Reports bytes approval flag' summary') (hdestination : lineFeed ∉ destination)
    (hflag : IsField flag) (hrefspec : IsField refspec) (hsummary : IsField summary)
    (hbytes : bytes = porcelain destination flag refspec summary) :
    flag = flag' ∧ refspec = expectedRefspec approval ∧ summary = summary' := by
  obtain ⟨-, ⟨hflag', hsummary'⟩, destination', hdestination', hbytes'⟩ := hreports
  have hrefspec' := isField_expectedRefspec h
  have hlines := lines_of_porcelain hdestination hflag hrefspec hsummary
  rw [← hbytes, hbytes', lines_of_porcelain hdestination' hflag' hrefspec' hsummary'] at hlines
  have hline := (List.cons.inj (List.cons.inj hlines).2).1
  have hfields := fields_of_line hflag hrefspec hsummary
  rw [← hline, fields_of_line hflag' hrefspec' hsummary'] at hfields
  obtain ⟨rfl, hrest⟩ := List.cons.inj hfields
  obtain ⟨hsame, hrest⟩ := List.cons.inj hrest
  exact ⟨rfl, hsame.symm, (List.cons.inj hrest).1.symm⟩

/-- A report has three line feeds. -/
theorem Reports.count_lineFeed (h : approval.isValid = true)
    (hreports : Reports bytes approval flag summary) : bytes.count lineFeed = 3 := by
  obtain ⟨-, ⟨hflag, hsummary⟩, destination, hdestination, rfl⟩ := hreports
  have hto : (utf8 "To ").count lineFeed = 0 := by decide
  have hdone : (utf8 "Done").count lineFeed = 0 := by decide
  have htab : [tab].count lineFeed = 0 := by decide
  have hend : [lineFeed].count lineFeed = 1 := by decide
  simp only [porcelain, List.count_append, hto, hdone, htab, hend,
    List.count_eq_zero_of_not_mem hdestination, List.count_eq_zero_of_not_mem hflag.1,
    List.count_eq_zero_of_not_mem hsummary.1,
    List.count_eq_zero_of_not_mem (isField_expectedRefspec h).1]

/-- A report does not go on after another one. -/
theorem Reports.eq_of_prefix (h : approval.isValid = true) {bytes' : Bytes} {flag' summary' : Text}
    (hreports : Reports bytes approval flag summary)
    (hreports' : Reports bytes' approval flag' summary') (hinit : bytes' <+: bytes) :
    bytes' = bytes := by
  have hcount := hreports.count_lineFeed h
  obtain ⟨rest, rfl⟩ := hinit
  rw [List.count_append, hreports'.count_lineFeed h] at hcount
  have hrest : lineFeed ∉ rest := List.count_eq_zero.mp (by omega)
  obtain ⟨-, -, destination, -, hbytes⟩ := hreports
  -- the last byte of a report is a line feed, and what goes on holds none
  have hlast : (bytes' ++ rest).getLast? = some lineFeed := by
    rw [hbytes, porcelain, List.getLast?_concat]
  rcases List.eq_nil_or_concat rest with rfl | ⟨before, b, rfl⟩
  · exact (List.append_nil bytes').symm
  · rw [List.concat_eq_append, ← List.append_assoc, List.getLast?_concat] at hlast
    obtain rfl := Option.some.inj hlast
    exact absurd (by simp) hrest

/-- **An acknowledgement stands for its reports and no others.**  An update is a report of the
approved ref with abbreviations of both commits, a rejection is one that names its side, and the
rest is unknown; so another flag, another refspec, a further line or a cut report is no update.  What
is asked of the approval holds of every binding of the journal (`GitBinding.isValid`). -/
theorem acknowledgement_exact (h : approval.isValid = true) (bytes : Bytes) (succeeded : Bool) :
    (acknowledgement bytes succeeded approval = .updated ↔
        ReportsUpdate bytes succeeded approval) ∧
      (acknowledgement bytes succeeded approval = .rejectedBeforeSend ↔
        ReportsRejection (utf8 "[rejected] (") bytes succeeded approval) ∧
      (acknowledgement bytes succeeded approval = .receiverRejected ↔
        ReportsRejection (utf8 "[remote rejected] (") bytes succeeded approval) ∧
      (acknowledgement bytes succeeded approval = .unknown ↔
        ¬ReportsUpdate bytes succeeded approval ∧
          ¬ReportsRejection (utf8 "[rejected] (") bytes succeeded approval ∧
          ¬ReportsRejection (utf8 "[remote rejected] (") bytes succeeded approval) ∧
      (acknowledgement bytes succeeded approval = .updated →
        (∀ destination flag refspec summary, lineFeed ∉ destination → IsField flag →
          IsField refspec → IsField summary →
          bytes = porcelain destination flag refspec summary →
          flag = utf8 " " ∧ refspec = expectedRefspec approval ∧
            ∃ old new, Abbreviates old approval.oldCommit ∧
              Abbreviates new approval.newCommit ∧ summary = old ++ utf8 ".." ++ new) ∧
        bytes.count lineFeed = 3 ∧
        ∀ cut, cut <+: bytes → cut ≠ bytes → acknowledgement cut succeeded approval ≠ .updated) := by
  have hupdated : acknowledgement bytes succeeded approval = .updated ↔
      ReportsUpdate bytes succeeded approval := acknowledgement_eq_updated h
  have hbefore : acknowledgement bytes succeeded approval = .rejectedBeforeSend ↔
      ReportsRejection _ bytes succeeded approval := acknowledgement_eq_rejectedBeforeSend h
  have hreceiver : acknowledgement bytes succeeded approval = .receiverRejected ↔
      ReportsRejection _ bytes succeeded approval := acknowledgement_eq_receiverRejected h
  refine ⟨hupdated, hbefore, hreceiver, ?_, ?_⟩
  · rw [← hupdated, ← hbefore, ← hreceiver]
    cases acknowledgement bytes succeeded approval <;> simp
  · intro hack
    obtain ⟨-, old, new, hold, hnew, hreports⟩ := hupdated.mp hack
    refine ⟨?_, hreports.count_lineFeed h, ?_⟩
    · intro destination flag refspec summary hdestination hflag hrefspec hsummary hbytes
      obtain ⟨hflag', hrefspec', hsummary'⟩ :=
        hreports.fields_eq h hdestination hflag hrefspec hsummary hbytes
      exact ⟨hflag', hrefspec', old, new, hold, hnew, hsummary'⟩
    · intro cut hcut hne hack'
      obtain ⟨-, _, _, -, -, hreports'⟩ := (acknowledgement_eq_updated h).mp hack'
      exact hne (hreports.eq_of_prefix h hreports' hcut)

end

/-- A transition of the approved branch. -/
def pushedApproval : GitRefAuthorization where
  authorizationId := utf8 "approval-1"
  operationId := utf8 "operation-1"
  repositoryId := utf8 "repository-1"
  reference := approvedGitRef
  oldCommit := utf8 "aaaaaaaaaaaaaaaaaaaaaaaaaaaaaaaaaaaaaaaa"
  newCommit := utf8 "bbbbbbbbbbbbbbbbbbbbbbbbbbbbbbbbbbbbbbbb"

/-- Its report is acknowledged as an update. -/
theorem pushedApproval_updated : pushedApproval.isValid = true ∧
    acknowledgement (porcelain (utf8 "file:///r.git") (utf8 " ") (expectedRefspec pushedApproval)
      (utf8 "aaaaaaa..bbbbbbb")) true pushedApproval = .updated := by
  have hvalid : pushedApproval.isValid = true := by decide
  refine ⟨hvalid, (acknowledgement_exact hvalid _ true).1.mpr
    ⟨rfl, utf8 "aaaaaaa", utf8 "bbbbbbb", ⟨by decide, by decide, by decide⟩,
      ⟨by decide, by decide, by decide⟩, ⟨?_, ⟨⟨by decide, by decide⟩, ⟨by decide, by decide⟩⟩,
        utf8 "file:///r.git", by decide, rfl⟩⟩⟩
  exact utf8IsValid_utf8 ("To file:///r.git\n \tbbbbbbbbbbbbbbbbbbbbbbbbbbbbbbbbbbbbbbbb:" ++
    "refs/heads/approved\taaaaaaa..bbbbbbb\nDone\n")

end Gateway
end Kapsel
